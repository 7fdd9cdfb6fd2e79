import UsdpIndexer.Analytics.DashboardReadiness
import UsdpIndexer.Analytics.RangeRequests
import UsdpIndexer.Analytics.SavingsYield
import UsdpIndexer.Analytics.YieldIntervals

/-!
# Analytics of a range

`readRangeAnalytics` of `analytics/range-analytics.ts`.  For every chain and asset of a
request the newest complete history is looked up; where it holds the range, the events of
the range are added up.  The yields of a chain are those of `UsdpIndexer.Analytics.YieldIntervals`.

A total counts as complete when as many components are in it as were asked for
(`coverageStatus`), and the global yield when it has a component of every chain.

Times are milliseconds since the epoch; those of blocks are stored in seconds.  A time that
the source prints as a text stands for itself.
-/

namespace UsdpIndexer

open KeyedTable StableOrder SelectFirst FailingFold

/-- What the range queries read. -/
structure RangeDatabase where
  index : Database
  balances : List HolderBalanceRow
  activity : List ActivityAggregate
  yields : List (ℕ × SavingsYieldInterval)

/-! ## Coverage -/

/-- A row of the coverage query, with the time at which its aggregate was created. -/
structure RangeCoverageRow where
  chainId : ℕ
  assetId : ParallelAssetId
  sourceScope : String
  sourceFromBlock : ℤ
  sourceToBlock : ℤ
  coverageStart : ℤ
  coverageEnd : ℤ
  currentHolders : ℕ
  historyComplete : Bool
  manifestVersion : String
  calculationVersion : String
  createdAt : ℤ
deriving DecidableEq, Repr

/-- `(chain_id, asset_id)` -/
def RangeCoverageRow.asset (row : RangeCoverageRow) : ℕ ×ₗ ℕ :=
  toLex (row.chainId, row.assetId.rank)

/-- `source_to_block desc, created_at desc` -/
def RangeCoverageRow.furthestFirst (a b : RangeCoverageRow) : ℤ :=
  lexCompare (·.sourceToBlock) (·.createdAt) b a

namespace RangeDatabase

variable (db : RangeDatabase)

/-- The time of a stored block. -/
def blockTime (chainId : ℕ) (number : ℤ) : Option ℤ :=
  (lookup BlockRow.key db.index.blocks (chainId, number)).map (1000 * ·.timestamp)

/-- How many accounts hold the asset of a row after its range. -/
def currentHolders (row : AssetActivityRow) : ℕ :=
  db.balances.countP fun balance =>
    balance.chainId = row.chainId ∧ balance.assetId = row.activity.assetId ∧
      balance.sourceScope = row.sourceScope ∧ balance.historyComplete ∧ balance.balance ≠ 0

/-- An aggregate joined with the blocks at its ends. -/
def coverageRow? (aggregate : ActivityAggregate) : Option RangeCoverageRow := do
  let coverageStart ← db.blockTime aggregate.row.chainId aggregate.row.sourceFromBlock
  let coverageEnd ← db.blockTime aggregate.row.chainId aggregate.row.sourceToBlock
  return {
    chainId := aggregate.row.chainId
    assetId := aggregate.row.activity.assetId
    sourceScope := aggregate.row.sourceScope
    sourceFromBlock := aggregate.row.sourceFromBlock
    sourceToBlock := aggregate.row.sourceToBlock
    coverageStart := coverageStart
    coverageEnd := coverageEnd
    currentHolders := db.currentHolders aggregate.row
    historyComplete := aggregate.row.historyComplete
    manifestVersion := aggregate.row.manifestVersion
    calculationVersion := aggregate.row.calculationVersion
    createdAt := aggregate.createdAt }

/-- The complete histories, of all chains and assets. -/
def completeHistories : List RangeCoverageRow :=
  (db.activity.filter (·.row.historyComplete)).filterMap db.coverageRow?

/-- Of every chain and asset the history that reaches furthest. -/
def latestCoverage (chainIds : List ℕ) (assetIds : List ParallelAssetId) :
    List RangeCoverageRow :=
  distinctOn RangeCoverageRow.asset RangeCoverageRow.furthestFirst
    (db.completeHistories.filter fun row => row.chainId ∈ chainIds ∧ row.assetId ∈ assetIds)

end RangeDatabase

/-- `coverageByKey.get(…)`; a `Map` keeps the last entry under a key. -/
def coverageByKey (rows : List RangeCoverageRow) (chainId : ℕ) (assetId : ParallelAssetId) :
    Option RangeCoverageRow :=
  rows.reverse.find? (·.asset = toLex (chainId, assetId.rank))

/-! ## The events of a range -/

/-- What the transfers of an asset in a range come to. -/
structure RangeActivity where
  transferVolume : ℤ
  mintedVolume : ℤ
  burnedVolume : ℤ
  transferCount : ℕ
  uniqueSenders : ℕ
  uniqueReceivers : ℕ
  uniqueParticipants : ℕ
  newHolders : ℕ
deriving DecidableEq, Repr

/-- What is deposited and withdrawn in a range. -/
structure SavingsFlows where
  depositedAssets : ℤ
  withdrawnAssets : ℤ
  netFlow : ℤ
  depositCount : ℕ
  withdrawCount : ℕ
  uniqueDepositors : ℕ
  uniqueWithdrawers : ℕ
deriving DecidableEq, Repr

/-- A row of the common table `transfers`. -/
structure RangeTransfer where
  fromAddress : Option String
  toAddress : Option String
  value : ℤ
deriving DecidableEq, Repr

/-- The payload of a transfer, with its addresses in lower case. -/
def rangeTransfer (event : ProtocolEventRow) : Except JsError RangeTransfer :=
  (payloadNumeric event.payload "value").map fun value =>
    ⟨payloadLower event.payload "from", payloadLower event.payload "to", value⟩

/-- `address <> $5`, which does not hold of a null. -/
def isAccount (address : Option String) : Bool := address.any (· ≠ ZERO_ADDRESS)

/-- The transfers that are neither mints nor burns. -/
def betweenAccounts (transfer : RangeTransfer) : Bool :=
  isAccount transfer.fromAddress && isAccount transfer.toAddress

/-- `count(distinct address) filter (where address <> $5)` -/
def countAccounts (addresses : List (Option String)) : ℕ :=
  (addresses.filter isAccount).dedup.length

/-- `sum(value)` -/
def totalValue (transfers : List RangeTransfer) : ℤ := (transfers.map (·.value)).sum

/-- The totals of some transfers. -/
def transferActivity (transfers : List RangeTransfer) (newHolders : ℕ) : RangeActivity where
  transferVolume := totalValue (transfers.filter betweenAccounts)
  mintedVolume := totalValue (transfers.filter (·.fromAddress = some ZERO_ADDRESS))
  burnedVolume := totalValue (transfers.filter (·.toAddress = some ZERO_ADDRESS))
  transferCount := transfers.countP betweenAccounts
  uniqueSenders := countAccounts (transfers.map (·.fromAddress))
  uniqueReceivers := countAccounts (transfers.map (·.toAddress))
  uniqueParticipants :=
    countAccounts (transfers.map (·.fromAddress) ++ transfers.map (·.toAddress))
  newHolders := newHolders

/-- The distinct owners of some events. -/
def countOwners (events : List ProtocolEventRow) : ℕ :=
  (events.filterMap fun event => payloadLower event.payload "owner").dedup.length

namespace RangeDatabase

variable (db : RangeDatabase)

/-- The wanted events of a chain whose blocks lie in a range. -/
def eventsBetween (chainId : ℕ) (rangeStart rangeEnd : ℤ) (wanted : ProtocolEventRow → Bool) :
    List ProtocolEventRow :=
  ((db.index.selectEvents chainId wanted).filter fun entry =>
    rangeStart ≤ 1000 * entry.1.timestamp ∧ 1000 * entry.1.timestamp ≤ rangeEnd).map Prod.snd

/-- How many accounts have first held the asset in the range. -/
def newHolders (chainId : ℕ) (assetId : ParallelAssetId) (rangeStart rangeEnd : ℤ)
    (sourceScope : String) : ℕ :=
  db.balances.countP fun balance =>
    balance.chainId = chainId ∧ balance.assetId = assetId ∧ balance.sourceScope = sourceScope ∧
      balance.historyComplete ∧
      ((balance.firstPositiveBlock.bind (db.blockTime chainId)).any fun time =>
        rangeStart ≤ time ∧ time ≤ rangeEnd)

/-- The transfers of an asset in a range are summed up. -/
def activityForRange (chainId : ℕ) (assetId : ParallelAssetId) (rangeStart rangeEnd : ℤ)
    (sourceScope : String) : Except JsError RangeActivity := do
  let role := if assetId = .usdp then "usdp-token" else "susdp-savings"
  let transfers ← (db.eventsBetween chainId rangeStart rangeEnd fun event =>
    event.contractRole = role ∧ event.eventName = "Transfer").mapM rangeTransfer
  return transferActivity transfers
    (db.newHolders chainId assetId rangeStart rangeEnd sourceScope)

/-- `sum((payload->>'assets')::numeric)` -/
def totalAssets (events : List ProtocolEventRow) : Except JsError ℤ :=
  (events.mapM fun event => payloadNumeric event.payload "assets").map List.sum

/-- The deposits and withdrawals in a range are summed up. -/
def savingsFlowsForRange (chainId : ℕ) (rangeStart rangeEnd : ℤ) :
    Except JsError SavingsFlows := do
  let named (name : String) := db.eventsBetween chainId rangeStart rangeEnd fun event =>
    event.contractRole = "susdp-savings" ∧ event.eventName = name
  let depositedAssets ← totalAssets (named "Deposit")
  let withdrawnAssets ← totalAssets (named "Withdraw")
  return {
    depositedAssets := depositedAssets
    withdrawnAssets := withdrawnAssets
    netFlow := depositedAssets - withdrawnAssets
    depositCount := (named "Deposit").length
    withdrawCount := (named "Withdraw").length
    uniqueDepositors := countOwners (named "Deposit")
    uniqueWithdrawers := countOwners (named "Withdraw") }

/-! ## The stored yields -/

/-- `(chain_id, window_start, window_end)` -/
def yieldWindow (row : ℕ × SavingsYieldInterval) : ℕ ×ₗ ℤ ×ₗ ℤ :=
  toLex (row.2.chainId, toLex (row.2.windowStart, row.2.windowEnd))

/-- A stored row as an interval. -/
def yieldInterval (row : ℕ × SavingsYieldInterval) : YieldInterval where
  id := row.1
  chainId := row.2.chainId
  windowStart := row.2.windowStart
  windowEnd := row.2.windowEnd
  nativeYpo := row.2.nativeYpo
  reconciliationStatus := row.2.reconciliationStatus

/-- Of every window the row that was created last. -/
def yieldIntervals (chainIds : List ℕ) : List YieldInterval :=
  (distinctOn yieldWindow (fun a b => b.2.createdAt - a.2.createdAt)
    (db.yields.filter fun row => row.2.chainId ∈ chainIds)).map yieldInterval

end RangeDatabase

/-! ## The answer -/

/-- One asset of one chain; of the coverage that was found the source prints the bounds, and of an
available asset the rest too. -/
inductive AssetReport
  | available (rangeStart rangeEnd : ℤ) (coverage : RangeCoverageRow) (activity : RangeActivity)
  | unavailable (reason : String) (requestedStart : Option ℤ) (requestedEnd : ℤ)
      (coverage : Option RangeCoverageRow)
deriving DecidableEq, Repr

/-- The activity of an available asset. -/
def AssetReport.activity? : AssetReport → Option RangeActivity
  | .available _ _ _ activity => some activity
  | .unavailable .. => none

/-- The start of the range of an available asset. -/
def AssetReport.rangeStart? : AssetReport → Option ℤ
  | .available rangeStart _ _ _ => some rangeStart
  | .unavailable .. => none

/-- What the answer says of a chain. -/
structure ChainReport where
  chainId : ℕ
  chainSlug : String
  chainName : String
  assets : List (ParallelAssetId × AssetReport)
  flows : Option SavingsFlows
  ypo : YieldAggregate
deriving DecidableEq, Repr

/-- `chain.assets[assetId]` -/
def ChainReport.asset (chain : ChainReport) (assetId : ParallelAssetId) : Option AssetReport :=
  chain.assets.lookup assetId

/-- The activity of an asset over the chains that have it. -/
structure GlobalActivity where
  status : CoverageStatus
  includedChainIds : List ℕ
  missingChainIds : List ℕ
  transferVolume : ℤ
  mintedVolume : ℤ
  burnedVolume : ℤ
  transferCount : ℕ
  chainSummedUniqueParticipants : ℕ
  chainSummedNewHolders : ℕ
deriving DecidableEq, Repr

/-- The flows over the chains that have them. -/
structure GlobalSavingsFlows where
  status : CoverageStatus
  includedChainIds : List ℕ
  depositedAssets : ℤ
  withdrawnAssets : ℤ
  netFlow : ℤ
  depositCount : ℕ
  withdrawCount : ℕ
deriving DecidableEq, Repr

/-- The yield over all chains, or why there is none. -/
structure GlobalYpo where
  status : AggregateStatus
  nativeYpo : Option ℤ
  reason : Option String
  includedChainIds : List ℕ
deriving DecidableEq, Repr

/-- What `readRangeAnalytics` returns. -/
structure RangeAnalytics where
  status : CoverageStatus
  preset : AnalyticsRangePreset
  /-- `none` where every deployment has its own start. -/
  rangeStart : Option ℤ
  rangeEnd : ℤ
  requestedChainIds : List ℕ
  requestedAssetIds : List ParallelAssetId
  requestedComponents : ℕ
  availableComponents : ℕ
  missingComponents : ℤ
  chains : List ChainReport
  activity : List (ParallelAssetId × GlobalActivity)
  savingsFlows : GlobalSavingsFlows
  ypo : GlobalYpo
deriving DecidableEq, Repr

/-! ## Reading it -/

/-- How long the range of a preset is, if that is fixed. -/
def AnalyticsRangePreset.milliseconds : AnalyticsRangePreset → Option ℤ
  | .sevenDays => some (7 * 86400000)
  | .thirtyDays => some (30 * 86400000)
  | .ninetyDays => some (90 * 86400000)
  | .all | .custom => none

/-- The start of the range of a preset that has a length. -/
def rangeStartForPreset (preset : AnalyticsRangePreset) (rangeEnd : ℤ) : Option ℤ :=
  preset.milliseconds.map (rangeEnd - ·)

/-- The earliest time that a `Date` can have. -/
def earliestDate : ℤ := -8640000000000000

namespace RangeDatabase

variable (db : RangeDatabase) (now : ℤ) (request : AnalyticsRangeRequest)

/-- The coverage that a request finds. -/
def requestedCoverage : List RangeCoverageRow :=
  db.latestCoverage request.chainIds request.assetIds

/-- Where every requested history is complete to. -/
def defaultEnd : ℤ := ((db.requestedCoverage request).map (·.coverageEnd)).min?.getD now

/-- The end of the range: the one asked for, or the latest that all coverage reaches. -/
def rangeEnd : ℤ := (request.to?.or request.asOf?).getD (db.defaultEnd now request)

/-- The start that all chains and assets have in common. -/
def sharedRangeStart : Option ℤ :=
  request.from?.or (rangeStartForPreset request.preset (db.rangeEnd now request))

/-- The shared start is a valid `Date`; the others are by themselves. -/
def StartIsDate : Prop :=
  ∀ start ∈ db.sharedRangeStart now request, earliestDate ≤ start

instance : Decidable (db.StartIsDate now request) :=
  decidable_of_iff
    (((db.sharedRangeStart now request).all fun start => earliestDate ≤ start) = true)
    (by simp [StartIsDate, Option.all_eq_true])

/-- The coverage of an asset on a chain. -/
def coverageOf (chainId : ℕ) (assetId : ParallelAssetId) : Option RangeCoverageRow :=
  coverageByKey (db.requestedCoverage request) chainId assetId

/-- The report on an asset, if its coverage goes over the range. -/
def assetReport (chainId : ℕ) (assetId : ParallelAssetId) : Except JsError AssetReport :=
  let stop := db.rangeEnd now request
  let shared := db.sharedRangeStart now request
  match db.coverageOf request chainId assetId with
  | some coverage =>
      let rangeStart := shared.getD coverage.coverageStart
      if coverage.coverageStart ≤ rangeStart ∧ coverage.coverageEnd ≥ stop then
        (db.activityForRange chainId assetId rangeStart stop coverage.sourceScope).map
          (.available rangeStart stop coverage)
      else
        .ok (.unavailable "requested_range_outside_complete_history" rangeStart stop coverage)
  | none => .ok (.unavailable "lifetime_history_not_backfilled" shared stop none)

/-- Where the yield of a chain starts: with the range, or with the history of its sUSDp. -/
def ypoStart (chainId : ℕ) : Option ℤ :=
  (db.sharedRangeStart now request).or
    ((db.coverageOf request chainId .susdp).map (·.coverageStart))

/-- The yield of a chain over its range. -/
def chainYpo (chainId : ℕ) : YieldAggregate :=
  match db.ypoStart now request chainId with
  | some rangeStart =>
      aggregateContiguousYieldIntervals
        { intervals := (db.yieldIntervals request.chainIds).filter (·.chainId = chainId)
          rangeStart := rangeStart
          rangeEnd := db.rangeEnd now request
          toleranceMilliseconds := none }
  | none => ⟨.unavailable, false, false, none, [], none, some "range_start_unavailable"⟩

/-- The flows of a chain whose sUSDp is available. -/
def chainFlows (chainId : ℕ) (susdp : Option AssetReport) : Except JsError (Option SavingsFlows) :=
  match susdp.bind (·.rangeStart?) with
  | some rangeStart =>
      (db.savingsFlowsForRange chainId rangeStart (db.rangeEnd now request)).map some
  | none => .ok none

/-- The report on a chain, asset by asset. -/
def chainReport (chainId : ℕ) : Except JsError ChainReport := do
  let assets ← request.assetIds.eraseDups.mapM fun assetId =>
    (db.assetReport now request chainId assetId).map (assetId, ·)
  let flows ← db.chainFlows now request chainId (assets.lookup .susdp)
  match savingsChainAdapters.find? (·.chainId = chainId) with
  | none => .error ⟨"Cannot read properties of undefined (reading 'chainSlug')"⟩
  | some adapter =>
      .ok ⟨chainId, adapter.chainSlug, adapter.chainName, assets, flows,
        db.chainYpo now request chainId⟩

end RangeDatabase

/-! ### The global figures -/

section Global

variable (chainIds : List ℕ) (chains : List ChainReport)

/-- The chains on which the asset is available, with its activity. -/
def availableActivity (assetId : ParallelAssetId) : List (ℕ × RangeActivity) :=
  chains.filterMap fun chain =>
    ((chain.asset assetId).bind (·.activity?)).map (chain.chainId, ·)

/-- The sums of an asset over the chains that report it. -/
def globalActivity (assetId : ParallelAssetId) : GlobalActivity :=
  let available := availableActivity chains assetId
  { status := coverageStatus available.length chainIds.length
    includedChainIds := available.map (·.1)
    missingChainIds := chainIds.filter fun chainId => !available.any (·.1 = chainId)
    transferVolume := (available.map (·.2.transferVolume)).sum
    mintedVolume := (available.map (·.2.mintedVolume)).sum
    burnedVolume := (available.map (·.2.burnedVolume)).sum
    transferCount := (available.map (·.2.transferCount)).sum
    chainSummedUniqueParticipants := (available.map (·.2.uniqueParticipants)).sum
    chainSummedNewHolders := (available.map (·.2.newHolders)).sum }

/-- The sums of the flows over the chains that report them. -/
def globalSavingsFlows : GlobalSavingsFlows :=
  let available := chains.filterMap fun chain => chain.flows.map (chain.chainId, ·)
  { status := coverageStatus available.length chainIds.length
    includedChainIds := available.map (·.1)
    depositedAssets := (available.map (·.2.depositedAssets)).sum
    withdrawnAssets := (available.map (·.2.withdrawnAssets)).sum
    netFlow := (available.map (·.2.netFlow)).sum
    depositCount := (available.map (·.2.depositCount)).sum
    withdrawCount := (available.map (·.2.withdrawCount)).sum }

/-- The chains whose yield is complete. -/
def availableYpo : List ChainReport := chains.filter (·.ypo.complete)

/-- The sum of the yields, if every chain that is asked for has one. -/
def globalYpo (assetIds : List ParallelAssetId) : GlobalYpo :=
  let available := availableYpo chains
  if .susdp ∈ assetIds ∧ available.length = chainIds.length then
    { status := if available.all (·.ypo.verified) then .verified else .candidate
      nativeYpo := some (available.map fun chain => chain.ypo.nativeYpo.getD 0).sum
      reason := none
      includedChainIds := available.map (·.chainId) }
  else
    { status := .unavailable
      nativeYpo := none
      reason := some "complete_contiguous_chain_intervals_missing"
      includedChainIds := available.map (·.chainId) }

/-- The assets of all chains that are available. -/
def availableComponents : ℕ :=
  (chains.map fun chain => chain.assets.countP (·.2.activity?.isSome)).sum

end Global

/-- The answer, of the reports of all chains. -/
def RangeDatabase.answer (db : RangeDatabase) (now : ℤ) (request : AnalyticsRangeRequest)
    (chains : List ChainReport) : RangeAnalytics :=
  let requestedComponents := request.chainIds.length * request.assetIds.length
  { status := coverageStatus (availableComponents chains) requestedComponents
    preset := request.preset
    rangeStart := db.sharedRangeStart now request
    rangeEnd := db.rangeEnd now request
    requestedChainIds := request.chainIds
    requestedAssetIds := request.assetIds
    requestedComponents := requestedComponents
    availableComponents := availableComponents chains
    missingComponents := requestedComponents - availableComponents chains
    chains := chains
    activity := request.assetIds.map fun assetId =>
      (assetId, globalActivity request.chainIds chains assetId)
    savingsFlows := globalSavingsFlows request.chainIds chains
    ypo := globalYpo request.chainIds chains request.assetIds }

/-- The reports on the chains that are asked for, and their sums. -/
def readRangeAnalytics (db : RangeDatabase) (now : ℤ) (request : AnalyticsRangeRequest) :
    Except JsError RangeAnalytics :=
  if db.StartIsDate now request then
    (request.chainIds.mapM (db.chainReport now request)).map (db.answer now request)
  else .error ⟨"Invalid time value"⟩

theorem readRangeAnalytics_eq_ok {db : RangeDatabase} {now : ℤ} {request : AnalyticsRangeRequest}
    {result : RangeAnalytics} :
    readRangeAnalytics db now request = .ok result ↔
      db.StartIsDate now request ∧ ∃ chains,
        request.chainIds.mapM (db.chainReport now request) = .ok chains ∧
          db.answer now request chains = result := by
  unfold readRangeAnalytics
  by_cases valid : db.StartIsDate now request
  · rw [if_pos valid, map_eq_ok]
    exact (and_iff_right valid).symm
  · rw [if_neg valid]
    exact iff_of_false (fun run => by cases run) fun run => valid run.1

/-! ## When there is an answer -/

namespace RangeDatabase

variable {db : RangeDatabase} {now : ℤ} {request : AnalyticsRangeRequest}

theorem chainReport_eq_ok {chainId : ℕ} {report : ChainReport}
    (run : db.chainReport now request chainId = .ok report) :
    report.chainId = chainId ∧ report.ypo = db.chainYpo now request chainId := by
  obtain ⟨assets, -, run⟩ := bind_eq_ok.mp run
  obtain ⟨flows, -, run⟩ := bind_eq_ok.mp run
  cases found : savingsChainAdapters.find? (·.chainId = chainId) with
  | none =>
      rw [found] at run
      cases run
  | some adapter =>
      rw [found] at run
      obtain rfl := Except.ok.inj run
      exact ⟨rfl, rfl⟩

theorem mem_eventsBetween {chainId : ℕ} {rangeStart rangeEnd : ℤ}
    {wanted : ProtocolEventRow → Bool} {event : ProtocolEventRow}
    (mem : event ∈ db.eventsBetween chainId rangeStart rangeEnd wanted) :
    event ∈ db.index.protocolEvents ∧ wanted event = true := by
  obtain ⟨entry, inside, rfl⟩ := List.mem_map.mp mem
  obtain ⟨event, ordered, joined⟩ := List.mem_filterMap.mp (List.mem_filter.mp inside).1
  obtain ⟨block, -, rfl⟩ := Option.map_eq_some_iff.mp joined
  obtain ⟨stored, chosen⟩ := List.mem_filter.mp (mem_sortBy.mp ordered)
  exact ⟨stored, (of_decide_eq_true chosen).2⟩

/-- The amounts of all events can be read; the indexer stores them as decimal texts. -/
def EventsReadable (db : RangeDatabase) : Prop :=
  ∀ event ∈ db.index.protocolEvents,
    (event.eventName = "Transfer" → ∃ value, payloadNumeric event.payload "value" = .ok value) ∧
      (event.eventName = "Deposit" ∨ event.eventName = "Withdraw" →
        ∃ value, payloadNumeric event.payload "assets" = .ok value)

theorem EventsReadable.activityForRange (readable : db.EventsReadable) (chainId : ℕ)
    (assetId : ParallelAssetId) (rangeStart rangeEnd : ℤ) (sourceScope : String) :
    ∃ activity, db.activityForRange chainId assetId rangeStart rangeEnd sourceScope
      = .ok activity := by
  refine exists_bind_eq_ok_iff.mpr (exists_mapM_eq_ok_iff.mpr fun event mem => ?_)
  obtain ⟨stored, chosen⟩ := mem_eventsBetween mem
  obtain ⟨value, read⟩ := (readable event stored).1 (of_decide_eq_true chosen).2
  exact ⟨_, map_eq_ok.mpr ⟨value, read, rfl⟩⟩

theorem EventsReadable.totalAssets (readable : db.EventsReadable) {name : String}
    (flow : name = "Deposit" ∨ name = "Withdraw") (chainId : ℕ) (rangeStart rangeEnd : ℤ) :
    ∃ total, RangeDatabase.totalAssets (db.eventsBetween chainId rangeStart rangeEnd fun event =>
      event.contractRole = "susdp-savings" ∧ event.eventName = name) = .ok total := by
  have read : ∀ event ∈ db.eventsBetween chainId rangeStart rangeEnd fun event =>
      event.contractRole = "susdp-savings" ∧ event.eventName = name,
      ∃ value, payloadNumeric event.payload "assets" = .ok value := by
    intro event mem
    obtain ⟨stored, chosen⟩ := mem_eventsBetween mem
    exact (readable event stored).2 ((of_decide_eq_true chosen).2 ▸ flow)
  obtain ⟨values, run⟩ := exists_mapM_eq_ok_iff.mpr read
  exact ⟨_, map_eq_ok.mpr ⟨values, run, rfl⟩⟩

theorem EventsReadable.savingsFlowsForRange (readable : db.EventsReadable) (chainId : ℕ)
    (rangeStart rangeEnd : ℤ) :
    ∃ flows, db.savingsFlowsForRange chainId rangeStart rangeEnd = .ok flows := by
  obtain ⟨deposited, deposits⟩ := readable.totalAssets (.inl rfl) chainId rangeStart rangeEnd
  obtain ⟨withdrawn, withdrawals⟩ := readable.totalAssets (.inr rfl) chainId rangeStart rangeEnd
  exact ⟨_, bind_eq_ok.mpr ⟨_, deposits, bind_eq_ok.mpr ⟨_, withdrawals, rfl⟩⟩⟩

theorem EventsReadable.assetReport (readable : db.EventsReadable) (chainId : ℕ)
    (assetId : ParallelAssetId) :
    ∃ report, db.assetReport now request chainId assetId = .ok report := by
  unfold RangeDatabase.assetReport
  cases db.coverageOf request chainId assetId with
  | none => exact ⟨_, rfl⟩
  | some coverage =>
      dsimp only
      split_ifs with covered
      · obtain ⟨activity, run⟩ := readable.activityForRange chainId assetId _ _ coverage.sourceScope
        exact ⟨_, map_eq_ok.mpr ⟨activity, run, rfl⟩⟩
      · exact ⟨_, rfl⟩

theorem EventsReadable.chainFlows (readable : db.EventsReadable) (chainId : ℕ)
    (susdp : Option AssetReport) :
    ∃ flows, db.chainFlows now request chainId susdp = .ok flows := by
  unfold RangeDatabase.chainFlows
  cases susdp.bind (·.rangeStart?) with
  | none => exact ⟨_, rfl⟩
  | some rangeStart =>
      obtain ⟨flows, run⟩ := readable.savingsFlowsForRange chainId rangeStart _
      exact ⟨_, map_eq_ok.mpr ⟨flows, run, rfl⟩⟩

/-- A registered chain is reported if all amounts can be read. -/
theorem EventsReadable.chainReport (readable : db.EventsReadable) {chainId : ℕ}
    (registered : chainId ∈ savingsChainIds) :
    ∃ report, db.chainReport now request chainId = .ok report := by
  have each : ∀ assetId ∈ request.assetIds.eraseDups, ∃ entry,
      (db.assetReport now request chainId assetId).map (assetId, ·) = .ok entry := by
    intro assetId _
    obtain ⟨report, run⟩ := readable.assetReport chainId assetId
    exact ⟨_, map_eq_ok.mpr ⟨report, run, rfl⟩⟩
  obtain ⟨assets, assetsRun⟩ := exists_mapM_eq_ok_iff.mpr each
  obtain ⟨flows, flowsRun⟩ :=
    @EventsReadable.chainFlows _ now request readable chainId (assets.lookup .susdp)
  obtain ⟨adapter, mem, rfl⟩ := List.mem_map.mp registered
  have isSome : (savingsChainAdapters.find? (·.chainId = adapter.chainId)).isSome :=
    List.find?_isSome.mpr ⟨adapter, mem, decide_eq_true rfl⟩
  obtain ⟨found, find⟩ := Option.isSome_iff_exists.mp isSome
  let report : ChainReport := ⟨adapter.chainId, found.chainSlug, found.chainName, assets, flows,
    db.chainYpo now request adapter.chainId⟩
  refine ⟨report, bind_eq_ok.mpr ⟨assets, assetsRun, bind_eq_ok.mpr ⟨flows, flowsRun, ?_⟩⟩⟩
  rw [find]

end RangeDatabase

/-- **A request for registered chains is answered** if all amounts can be read. -/
theorem exists_readRangeAnalytics {db : RangeDatabase} {now : ℤ} {request : AnalyticsRangeRequest}
    (readable : db.EventsReadable) (valid : db.StartIsDate now request)
    (registered : ∀ chainId ∈ request.chainIds, chainId ∈ savingsChainIds) :
    ∃ result, readRangeAnalytics db now request = .ok result := by
  obtain ⟨chains, run⟩ := exists_mapM_eq_ok_iff.mpr fun chainId mem =>
    readable.chainReport (registered chainId mem)
  exact ⟨_, readRangeAnalytics_eq_ok.mpr ⟨valid, chains, run, rfl⟩⟩

/-- The reports of an answer, of each chain that is asked for. -/
theorem chains_of_readRangeAnalytics {db : RangeDatabase} {now : ℤ}
    {request : AnalyticsRangeRequest} {result : RangeAnalytics}
    (run : readRangeAnalytics db now request = .ok result) :
    result.chains.map (·.chainId) = request.chainIds ∧
      ∀ report ∈ result.chains, report.ypo = db.chainYpo now request report.chainId := by
  obtain ⟨-, chains, reports, rfl⟩ := readRangeAnalytics_eq_ok.mp run
  constructor
  · have same := @map_of_mapM_eq_ok _ _ _ _ _ _ _ reports (·.chainId) id
      fun chainId report run => (RangeDatabase.chainReport_eq_ok run).1
    rwa [List.map_id] at same
  · intro report mem
    obtain ⟨chainId, -, run⟩ := (mem_of_mapM_eq_ok reports report).mp mem
    obtain ⟨rfl, ypo⟩ := RangeDatabase.chainReport_eq_ok run
    exact ypo

/-! ## What an answer says -/

/-- What is called complete has a component in it. -/
structure RangeAnalytics.Substantial (result : RangeAnalytics) : Prop where
  status : result.status = .complete →
    ∃ chain ∈ result.chains, ∃ asset ∈ chain.assets, asset.2.activity?.isSome
  ypo : result.ypo.status = .verified ∨ result.ypo.status = .candidate →
    result.ypo.nativeYpo.isSome → result.ypo.includedChainIds ≠ []

theorem exists_available {chains : List ChainReport} (positive : 0 < availableComponents chains) :
    ∃ chain ∈ chains, ∃ asset ∈ chain.assets, asset.2.activity?.isSome := by
  obtain ⟨count, mem, some⟩ := List.sum_pos_iff_exists_pos_nat.mp positive
  obtain ⟨chain, inside, rfl⟩ := List.mem_map.mp mem
  exact ⟨chain, inside, List.countP_pos_iff.mp some⟩

/-- An answer about a chain at least is substantial. -/
theorem substantial_answer {db : RangeDatabase} {now : ℤ} {request : AnalyticsRangeRequest}
    (chainIds : request.chainIds ≠ []) (assetIds : request.assetIds ≠ [])
    (chains : List ChainReport) : (db.answer now request chains).Substantial := by
  have someChain := List.length_pos_iff.mpr chainIds
  have someAsset := List.length_pos_iff.mpr assetIds
  constructor
  · intro complete
    have all : availableComponents chains = request.chainIds.length * request.assetIds.length :=
      coverageStatus_eq_complete.mp complete
    exact exists_available (all ▸ Nat.mul_pos someChain someAsset)
  · intro status _
    have complete : .susdp ∈ request.assetIds ∧
        (availableYpo chains).length = request.chainIds.length := by
      by_contra incomplete
      simp [RangeDatabase.answer, globalYpo, incomplete] at status
    simp only [RangeDatabase.answer, globalYpo, if_pos complete, ne_eq, List.map_eq_nil_iff]
    rw [← List.length_eq_zero_iff, complete.2]
    exact someChain.ne'

/-- An answer about no chain never is. -/
theorem not_substantial_answer {db : RangeDatabase} {now : ℤ} {request : AnalyticsRangeRequest}
    (chainIds : request.chainIds = []) : ¬ (db.answer now request []).Substantial := by
  intro substantial
  have complete : (db.answer now request []).status = .complete := by
    refine coverageStatus_eq_complete.mpr ?_
    rw [chainIds, List.length_nil, Nat.zero_mul]
    rfl
  obtain ⟨chain, mem, -⟩ := substantial.status complete
  exact absurd mem List.not_mem_nil

/-- **What is called complete has a component in it, unless no chain is asked for.**  If the
range of such a request starts before the earliest date, there is no answer. -/
theorem substantial_iff_namesChain {dateValue : String → Option ℤ} {params : SearchParams}
    {request : AnalyticsRangeRequest}
    (parsed : parseRangeAnalyticsRequest dateValue params = .ok request) (db : RangeDatabase)
    (now : ℤ) :
    (∀ result, readRangeAnalytics db now request = .ok result → result.Substantial) ↔
      params.NamesChain ∨ ¬ db.StartIsDate now request := by
  have assetIds := parseAssets_ne_nil (parseRangeAnalyticsRequest_eq_ok parsed).2
  rw [← chainIds_ne_nil_iff parsed]
  constructor
  · intro substantial
    by_contra neither
    obtain ⟨chainIds, valid⟩ := not_or.mp neither
    rw [not_not] at chainIds valid
    have run : readRangeAnalytics db now request = .ok (db.answer now request []) :=
      readRangeAnalytics_eq_ok.mpr ⟨valid, [], by rw [chainIds]; rfl, rfl⟩
    exact not_substantial_answer chainIds (substantial _ run)
  · rintro (chainIds | invalid) result run
    · obtain ⟨-, chains, -, rfl⟩ := readRangeAnalytics_eq_ok.mp run
      exact substantial_answer chainIds assetIds chains
    · exact absurd (readRangeAnalytics_eq_ok.mp run).1 invalid

/-- Nothing is stored. -/
def RangeDatabase.empty : RangeDatabase := ⟨.empty, [], [], []⟩

/-- A request for Base is answered without an error, and the condition holds of it. -/
theorem substantial_iff_namesChain_base :
    ∃ request, parseRangeAnalyticsRequest (fun _ => none) [("chains", "base")] = .ok request ∧
      (∃ result, readRangeAnalytics .empty 1783558757000 request = .ok result) ∧
      ∀ result, readRangeAnalytics .empty 1783558757000 request = .ok result →
        result.Substantial := by
  have parsed : parseRangeAnalyticsRequest (fun _ => none) [("chains", "base")]
      = .ok ⟨.sevenDays, [8453], [.usdp, .susdp], none, none, none⟩ := by decide +kernel
  refine ⟨_, parsed, ?_, (substantial_iff_namesChain parsed .empty 1783558757000).mpr (.inl ?_)⟩
  · exact ⟨_, rfl⟩
  · rintro _ ⟨⟩
    exact ⟨"base", by decide, by decide⟩

/-- **A request for no chain is complete**, with a verified yield of nothing. -/
theorem complete_without_chain :
    (∃ request result,
      parseRangeAnalyticsRequest (fun _ => none) [("range", "all"), ("chains", ",")] = .ok request ∧
        readRangeAnalytics .empty 1783558757000 request = .ok result ∧
        result.status = .complete ∧ result.ypo = ⟨.verified, some 0, none, []⟩) ∧
    ¬ ∀ (dateValue : String → Option ℤ) (params : SearchParams) (request : AnalyticsRangeRequest)
        (db : RangeDatabase) (now : ℤ) (result : RangeAnalytics),
        parseRangeAnalyticsRequest dateValue params = .ok request →
          readRangeAnalytics db now request = .ok result → result.Substantial := by
  have parsed : parseRangeAnalyticsRequest (fun _ => none) [("range", "all"), ("chains", ",")]
      = .ok ⟨.all, [], [.usdp, .susdp], none, none, none⟩ := by decide +kernel
  refine ⟨⟨_, _, parsed, rfl, rfl, rfl⟩, fun substantial => ?_⟩
  exact not_substantial_answer rfl (substantial _ _ _ .empty 1783558757000 _ parsed rfl)

end UsdpIndexer
