import UsdpIndexer.Analytics.Publication
import UsdpIndexer.Analytics.WholeDatabase

/-!
# What the dashboard shows of a chain

Every figure of a dashboard row is read from a table that belongs to the chain, so that it is
a figure of the chain: the activity is that of the `Transfer` logs in the row's range, the
flows are the `Deposit` and `Withdraw` logs of the vault, and the lifetime yield is made of its
`Accrued` logs (`dashboard_shows_chain`).

Three things are asked of the calls.  Every chunk holds what the chain has.  The flows of the
range have been rebuilt under one provenance, since they are added up over all of them; this is
carried through the run as what every row has been written by (`WholeDatabase.WrittenBy`).  And
the holders of the chain have been rebuilt, under a scope of the dashboard, from lanes that
watch both of its tokens: `rebuildHolderLedger` takes any scope and does not check that.
-/

namespace UsdpIndexer

open KeyedTable hiding Unique
open EconomicEvents SelectFirst StableOrder

/-! ## What the rows have been written by -/

/-- The part of a chain and a scope that a rebuild of the holders is about. -/
structure HolderSource where
  chainId : ℕ
  scope : String
  fromBlock : ℤ
  toBlock : ℤ
deriving DecidableEq, Repr

/-- The range that a balance is the result of. -/
def HolderBalanceRow.source (row : HolderBalanceRow) : HolderSource :=
  ⟨row.chainId, row.sourceScope, row.sourceFromBlock, row.sourceToBlock⟩

/-- The range that the figures are the result of. -/
def AssetActivityRow.source (row : AssetActivityRow) : HolderSource :=
  ⟨row.chainId, row.sourceScope, row.sourceFromBlock, row.sourceToBlock⟩

namespace DatabaseCall

/-- The source of a rebuild of the holders. -/
def holderSource : DatabaseCall → Option HolderSource
  | .rebuildHolderLedger adapter scope fromBlock toBlock _ _ =>
      some ⟨adapter.chainId, scope, fromBlock, toBlock⟩
  | _ => none

/-- The provenance of a rebuild of the flows. -/
def flowProvenance : DatabaseCall → Option FlowProvenance
  | .rebuildFlowAnalytics options _ => some options.provenance
  | _ => none

/-- A chunk holds what the chain has; nothing is asked of the other calls. -/
def Exact (chains : ℕ → ChainLogs) (watched : Lane → List String) : DatabaseCall → Prop
  | .analytics input => input.call.Exact chains watched
  | .rebuildFlowAnalytics _ _ | .rebuildHolderLedger .. => True

/-- An exact call keeps the promise for the lanes that it does not rebuild the holders of, or that
watch the two tokens. -/
theorem Exact.promisedIn {chains : ℕ → ChainLogs} {watched : Lane → List String}
    {lanes : Lane → Prop} {call : DatabaseCall} (exact_ : call.Exact chains watched)
    (watches : ∀ source, call.holderSource = some source → lanes ⟨source.chainId, source.scope⟩ →
      WatchesRoles (watched ⟨source.chainId, source.scope⟩) source.chainId tokenRoles) :
    call.PromisedIn chains watched lanes := by
  cases call with
  | analytics input => exact exact_
  | rebuildFlowAnalytics options faults => trivial
  | rebuildHolderLedger adapter scope fromBlock toBlock calculationVersion fault =>
      exact watches _ rfl

end DatabaseCall

/-- Every row has been written by one of the calls. -/
structure WholeDatabase.WrittenBy (calls : List DatabaseCall) (db : WholeDatabase) : Prop where
  flows : ∀ row ∈ db.flows.flowAggregates,
    ∃ call ∈ calls, call.flowProvenance = some row.provenance
  balances : ∀ row ∈ db.holders.balances, ∃ call ∈ calls, call.holderSource = some row.source
  activity : ∀ row ∈ db.holders.activity, ∃ call ∈ calls, call.holderSource = some row.source

section Written

variable {viem : Viem} {keccak256 : String → String} {isAddress : String → Bool}
  {calls : List DatabaseCall} {db : WholeDatabase}

/-- The rows after a rebuild of the flows are old ones, or of its provenance. -/
theorem FlowCall.mem_rebuild {call : FlowCall} {tables : FlowTables}
    (unique : KeyedTable.Unique FlowAggregateRow.key tables.flowAggregates)
    {row : FlowAggregateRow} (mem : row ∈ (call.rebuild isAddress tables).2.flowAggregates) :
    row ∈ tables.flowAggregates ∨ row.provenance = call.options.provenance := by
  generalize ran : call.rebuild isAddress tables = outcome at mem
  cases ran ▸ @FlowCall.ran_rebuild isAddress call tables unique with
  | stopped => exact .inl mem
  | rebuilt report derived candidate derives =>
      rcases List.mem_append.mp mem with kept | new
      · exact .inl (List.mem_filter.mp kept).1
      · obtain ⟨aggregate, -, rfl⟩ := List.mem_map.mp new
        exact .inr rfl

/-- The rows after a rebuild of the holders are old ones, or of its source. -/
theorem mem_rebuildHolderLedger {adapter : SavingsChainAdapter} {scope : String}
    {call : RebuildCall} {tables : HolderTables} :
    (∀ row ∈ (rebuildHolderLedger adapter scope call tables).2.balances, row ∈ tables.balances ∨
        row.source = ⟨adapter.chainId, scope, call.fromBlock, call.toBlock⟩) ∧
      ∀ row ∈ (rebuildHolderLedger adapter scope call tables).2.activity, row ∈ tables.activity ∨
        row.source = ⟨adapter.chainId, scope, call.fromBlock, call.toBlock⟩ := by
  rcases @rebuildHolderLedger_cases adapter scope call tables
    with same | ⟨coverage, events, replay, -, -, -, conserves, written⟩
  · rw [same]
    exact ⟨fun row mem => .inl mem, fun row mem => .inl mem⟩
  · rw [written]
    refine ⟨fun row mem => ?_, fun row mem => ?_⟩
    · rw [call.balances_write] at mem
      rcases (mem_upsertAll _ _ _ (call.unique_balanceRows adapter scope conserves)).mp mem
        with new | ⟨old, -⟩
      · obtain ⟨balance, -, rfl⟩ := List.mem_map.mp new
        exact .inr rfl
      · exact .inl old
    · rcases (mem_upsertAll _ _ _ (call.unique_activityRows adapter scope conserves)).mp mem
        with new | ⟨old, -⟩
      · obtain ⟨activity, -, rfl⟩ := List.mem_map.mp new
        exact .inr rfl
      · exact .inl old

/-- **Every call writes rows of its own** and leaves the others what they are. -/
theorem WholeDatabase.WrittenBy.step (written : db.WrittenBy calls) {call : DatabaseCall}
    (called : call ∈ calls)
    (unique : KeyedTable.Unique FlowAggregateRow.key db.flows.flowAggregates) :
    (databaseStep viem keccak256 isAddress call db).1.WrittenBy calls := by
  cases call with
  | analytics input => exact ⟨written.flows, written.balances, written.activity⟩
  | rebuildFlowAnalytics options faults =>
      refine ⟨fun row mem => ?_, written.balances, written.activity⟩
      rcases FlowCall.mem_rebuild unique mem with old | new
      · exact written.flows row old
      · exact ⟨_, called, by rw [new]; rfl⟩
  | rebuildHolderLedger adapter scope fromBlock toBlock calculationVersion fault =>
      have rows := @mem_rebuildHolderLedger adapter scope
        (holderCall db.analytics.index fromBlock toBlock calculationVersion fault) db.holders
      refine ⟨written.flows, fun row mem => ?_, fun row mem => ?_⟩
      · rcases rows.1 row mem with old | new
        · exact written.balances row old
        · exact ⟨_, called, by rw [new]; rfl⟩
      · rcases rows.2 row mem with old | new
        · exact written.activity row old
        · exact ⟨_, called, by rw [new]; rfl⟩

theorem writtenBy_run {chains : ℕ → ChainLogs} {watched : Lane → List String}
    (watches : WatchesVaults watched) (exact_ : ∀ call ∈ calls, call.Exact chains watched) :
    (databaseRun viem keccak256 isAddress calls).WrittenBy calls := by
  -- of the flows it is needed that their keys are unique; no lane of the holders matters
  have promised (call : DatabaseCall) (called : call ∈ calls) :
      call.PromisedIn chains watched fun _ => False :=
    (exact_ call called).promisedIn fun _ _ none => none.elim
  have along : Machine.Along (databaseStep viem keccak256 isAddress)
      (fun call _ => call ∈ calls) calls .empty := Machine.along_of_forall fun call mem => mem
  have both := Machine.run_invariant_along (fun (db : WholeDatabase) _ =>
    db.OnChainIn viem chains watched (fun _ => False) ∧ db.WrittenBy calls)
    (fun call db _ called holds =>
      ⟨holds.1.step watches (promised call called),
        holds.2.step called holds.1.flows.unique⟩) calls along
    ⟨.empty, ⟨fun _ mem => absurd mem List.not_mem_nil, fun _ mem => absurd mem List.not_mem_nil,
      fun _ mem => absurd mem List.not_mem_nil⟩⟩
  exact both.2

end Written

/-! ## What is shown -/

/-- What these transfers are as an activity of an asset. -/
structure LifetimeActivityMetric.Of (metric : LifetimeActivityMetric) (assetId : ParallelAssetId)
    (events : List TransferReplayEvent) : Prop where
  transferVolume : metric.transferVolume = ((peerTransfers events assetId).map (·.value)).sum
  transferCount : metric.transferCount = (peerTransfers events assetId).length
  mintedVolume : metric.mintedVolume = debits events assetId ZERO_ADDRESS
  burnedVolume : metric.burnedVolume = credits events assetId ZERO_ADDRESS
  uniqueParticipants : metric.uniqueParticipants
    = (sendersOf events assetId ∪ receiversOf events assetId).card
  activeHolders : ∃ holders : Finset String, holders.card = metric.activeHolders ∧
    ∀ holder, holder ∈ holders ↔ holder ≠ ZERO_ADDRESS ∧ 0 < held events (assetId, holder)

/-- What these logs of the vault are as flows. -/
def flowMetric (viem : Viem) (chainId : ℕ) (logs : List MinedLog) : LifetimeFlowMetric where
  depositedAssets := (flowsOf viem chainId "Deposit" logs).sum
  withdrawnAssets := (flowsOf viem chainId "Withdraw" logs).sum
  depositCount := (flowsOf viem chainId "Deposit" logs).length
  withdrawCount := (flowsOf viem chainId "Withdraw" logs).length

/-- The yield is made of the interest between its two blocks, which are the deployment of the
vault and the goal of the range. -/
structure LifetimeYieldMetric.OnChain (viem : Viem) (chains : ℕ → ChainLogs)
    (range : LifetimeDashboardRange) (shown : LifetimeYieldMetric) : Prop where
  fromBlock : some shown.fromBlock = savingsDeploymentBlocks range.chainId
  toBlock : shown.toBlock = range.goalBlock
  interest : ∃ logs, (chains range.chainId).Lists range.chainId vaultRoles (shown.fromBlock + 1)
    shown.toBlock logs ∧ accruedInterestOf viem range.chainId logs = .ok shown.accruedInterest
  ypo : shown.nativeYpo
    = shown.accruedInterest + shown.pendingYieldAtEnd - shown.pendingYieldAtStart

/-- Every figure of the row is one of the chain. -/
structure LifetimeDashboardRow.OnChain (viem : Viem) (chains : ℕ → ChainLogs)
    (row : LifetimeDashboardRow) : Prop where
  activity : ∀ assetId metric, row.asset assetId = some metric → ∃ logs time,
    (chains row.range.chainId).Lists row.range.chainId tokenRoles row.range.fromBlock
      row.range.goalBlock logs ∧
    metric.Of assetId (transfersOf viem row.range.chainId time logs)
  flows : ∀ flow, row.flows = some flow → ∃ logs,
    (chains row.range.chainId).Lists row.range.chainId vaultRoles row.range.fromBlock
      row.range.goalBlock logs ∧
    flow = flowMetric viem row.range.chainId logs
  lifetimeYield : ∀ shown, row.lifetimeYield = some shown →
    shown.OnChain viem chains row.range

/-- The tables as the dashboard reads them; the rows of the activity have been created at some
times. -/
def WholeDatabase.dashboard (db : WholeDatabase) (createdAt : AssetActivityRow → ℤ) :
    DashboardDatabase where
  index := db.analytics.index
  activity := db.holders.activity.map fun row => ⟨row, createdAt row⟩
  flows := db.flows.flowAggregates
  yields := db.analytics.yields.values

/-- The lanes that the row of a range may have its activity from. -/
def LifetimeDashboardRange.Reads (range : LifetimeDashboardRange) (lane : Lane) : Prop :=
  lane.chainId = range.chainId ∧ lane.scope ∈ dashboardScopes

/-- Whenever the holders of the chain are rebuilt under a scope of the dashboard, both tokens
are watched under that scope. -/
def HoldersWatched (calls : List DatabaseCall) (watched : Lane → List String)
    (range : LifetimeDashboardRange) : Prop :=
  ∀ call ∈ calls, ∀ source, call.holderSource = some source →
    range.Reads ⟨source.chainId, source.scope⟩ →
      WatchesRoles (watched ⟨source.chainId, source.scope⟩) source.chainId tokenRoles

section Shown

variable {viem : Viem} {chains : ℕ → ChainLogs} {watched : Lane → List String}
  {db : WholeDatabase} {range : LifetimeDashboardRange} {createdAt : AssetActivityRow → ℤ}

/-- The active holders of a replay can be listed. -/
theorem HolderReplay.Conserves.exists_activeHolders {replay : HolderReplay}
    {events : List TransferReplayEvent} (conserves : replay.Conserves events)
    {activity : ReplayedAssetActivity} (mem : activity ∈ replay.activity) :
    ∃ holders : Finset String, holders.card = activity.activeHolders ∧ ∀ holder,
      holder ∈ holders ↔ holder ≠ ZERO_ADDRESS ∧ 0 < held events (activity.assetId, holder) := by
  let active := replay.balances.filter fun row => row.assetId = activity.assetId ∧ row.balance > 0
  have assets {row : ReplayedHolderBalance} (hrow : row ∈ active) :
      row ∈ replay.balances ∧ row.assetId = activity.assetId ∧ 0 < row.balance := by
    obtain ⟨stored, own⟩ := List.mem_filter.mp hrow
    exact ⟨stored, of_decide_eq_true own⟩
  have nodup : (active.map (·.holderAddress)).Nodup := by
    refine (conserves.unique.of_map _ |>.filter _).map_on fun row hrow row' hrow' same => ?_
    refine conserves.unique.eq_of_key_eq _ (assets hrow).1 (assets hrow').1 ?_
    exact Prod.ext ((assets hrow).2.1.trans (assets hrow').2.1.symm) same
  refine ⟨(active.map (·.holderAddress)).toFinset, ?_, fun holder => ?_⟩
  · rw [List.toFinset_card_of_nodup nodup, List.length_map,
      (conserves.activity activity mem).activeHolders, List.countP_eq_length_filter]
  · rw [List.mem_toFinset, List.mem_map]
    constructor
    · rintro ⟨row, hrow, rfl⟩
      obtain ⟨stored, asset, positive⟩ := assets hrow
      refine ⟨conserves.zero row stored, ?_⟩
      rw [held, ← asset, ← conserves.balance row stored]
      exact positive
    · rintro ⟨zero, positive⟩
      obtain ⟨row, stored, same⟩ := (conserves.holders activity.assetId holder).mpr
        ⟨zero, exists_event_of_held_ne_zero positive.ne'⟩
      obtain ⟨asset, rfl⟩ := Prod.mk.inj same
      refine ⟨row, List.mem_filter.mpr ⟨stored, decide_eq_true ⟨asset, ?_⟩⟩, rfl⟩
      rw [held, ← asset, ← conserves.balance row stored] at positive
      exact positive

/-- **The activity that is shown** is that of the chain. -/
theorem HolderTables.OnChain.shown (onChain : db.holders.OnChain viem chains range.Reads)
    {assetId : ParallelAssetId} {metric : LifetimeActivityMetric}
    (shown : ((db.dashboard createdAt).dashboardRow range).asset assetId = some metric) :
    ∃ logs time,
      (chains range.chainId).Lists range.chainId tokenRoles range.fromBlock range.goalBlock logs ∧
      metric.Of assetId (transfersOf viem range.chainId time logs) := by
  obtain ⟨aggregate, mem, rfl, rfl⟩ := asset_dashboardRow_iff.mp shown
  obtain ⟨selected, own⟩ := List.mem_filter.mp mem
  obtain ⟨chain, fromBlock, toBlock⟩ := of_decide_eq_true own
  obtain ⟨candidate, scope⟩ := List.mem_filter.mp (mem_of_mem_distinctOn selected)
  obtain ⟨row, stored, rfl⟩ := List.mem_map.mp candidate
  obtain ⟨logs, time, replay, lists, conserves, replayed, -⟩ :=
    onChain.activity row stored ⟨chain, (of_decide_eq_true scope).1⟩
  simp only at chain fromBlock toBlock
  rw [chain, fromBlock, toBlock] at lists
  rw [chain] at conserves
  have figures := conserves.activity _ replayed
  exact ⟨logs, time, lists, figures.transferVolume, figures.transferCount, figures.mintedVolume,
    figures.burnedVolume, figures.uniqueParticipants, conserves.exists_activeHolders replayed⟩

/-- **The flows that are shown** are those of the chain, if the buckets of the range are of one
provenance. -/
theorem FlowTables.OnChain.shown (onChain : db.flows.OnChain viem chains)
    (known : range ∈ lifetimeDashboardRanges)
    (one : ∀ row ∈ db.flows.flowAggregates, ∀ row' ∈ db.flows.flowAggregates,
      row.provenance.Over range → row'.provenance.Over range → row.provenance = row'.provenance)
    {flow : LifetimeFlowMetric} (shown : (db.dashboard createdAt).flow range = some flow) :
    ∃ logs,
      (chains range.chainId).Lists range.chainId vaultRoles range.fromBlock range.goalBlock logs ∧
      flow = flowMetric viem range.chainId logs := by
  unfold DashboardDatabase.flow at shown
  simp only at shown
  split at shown
  · cases shown
  · rename_i buckets
    obtain ⟨first, mem⟩ := List.exists_mem_of_ne_nil _ buckets
    obtain ⟨stored, own⟩ := List.mem_filter.mp mem
    obtain ⟨-, -, chain, fromBlock, toBlock⟩ := of_decide_eq_true own
    have ofFirst : first.provenance.Over range := ⟨chain, fromBlock, toBlock⟩
    have listed : first ∈ db.flows.rowsOf first.provenance :=
      List.mem_filter.mpr ⟨stored, decide_eq_true rfl⟩
    obtain ⟨logs, lists, sums⟩ := onChain.days first.provenance (List.ne_nil_of_mem listed)
    rw [chain, fromBlock, toBlock] at lists
    -- the group of the range are the daily buckets of this provenance
    have group (metric : NativeFlowMetric) :
        (((db.dashboard createdAt).flowGroup range).filter (·.aggregate.metric = metric)).map
          (·.aggregate) = db.flows.days first.provenance metric := by
      rw [FlowTables.days, FlowTables.rowsOf, List.filter_map, List.filter_filter,
        DashboardDatabase.flowGroup, List.filter_filter]
      refine congrArg _ (List.filter_congr fun row hrow => ?_)
      have same : row.provenance = first.provenance ↔ row.provenance.Over range :=
        ⟨fun same => same ▸ ofFirst, fun ofRange => one row hrow first stored ofRange ofFirst⟩
      have chainId : range.chainId ∈ dashboardChainIds := List.mem_map_of_mem known
      simp only [Function.comp_apply, ← Bool.decide_and, decide_eq_decide, same,
        FlowProvenance.Over]
      constructor
      · rintro ⟨kind, -, day, ofRange⟩
        exact ⟨⟨day, kind⟩, ofRange⟩
      · rintro ⟨⟨day, kind⟩, ofRange⟩
        exact ⟨kind, by rw [ofRange.1]; exact chainId, day, ofRange⟩
    have sum (metric : NativeFlowMetric) (eventName : String) (vault : VaultFlow metric eventName) :
        ((((db.dashboard createdAt).flowGroup range).filter (·.aggregate.metric = metric)).map
          (·.aggregate.amountBaseUnits)).sum = (flowsOf viem range.chainId eventName logs).sum ∧
        ((((db.dashboard createdAt).flowGroup range).filter (·.aggregate.metric = metric)).map
          (·.aggregate.eventCount)).sum = (flowsOf viem range.chainId eventName logs).length := by
      obtain ⟨amounts, counts⟩ := sums metric eventName vault
      rw [← group, List.map_map, chain] at amounts counts
      exact ⟨amounts, counts⟩
    cases shown
    refine ⟨logs, lists, ?_⟩
    rw [flowMetric, (sum _ _ .deposited).1, (sum _ _ .deposited).2, (sum _ _ .withdrawn).1,
      (sum _ _ .withdrawn).2]

/-- **The yield that is shown** is that of the chain. -/
theorem YieldsOnChain.shown (onChain : YieldsOnChain viem chains watched db.analytics)
    {shown : LifetimeYieldMetric}
    (result : ((db.dashboard createdAt).dashboardRow range).lifetimeYield = some shown) :
    shown.OnChain viem chains range := by
  obtain ⟨row, selected, rfl⟩ := Option.map_eq_some_iff.mp result
  have wanted := List.find?_some selected
  obtain ⟨chain, fromBlock, toBlock⟩ := of_decide_eq_true wanted
  have stored := (List.mem_filter.mp (mem_sortBy.mp (List.mem_of_find?_eq_some selected))).1
  have own := onChain.rows row stored
  have interest := own.interest
  rw [chain] at interest
  exact ⟨fromBlock, toBlock, interest, own.ypo⟩

end Shown

/-- What calls with exact chunks leave belongs to the chains, with the holders that the row of a
range may read, if these have been rebuilt from lanes that watch both tokens. -/
theorem onChainIn_reads {viem : Viem} {keccak256 : String → String} {isAddress : String → Bool}
    {chains : ℕ → ChainLogs} {watched : Lane → List String} {calls : List DatabaseCall}
    {range : LifetimeDashboardRange} (watches : WatchesVaults watched)
    (exact_ : ∀ call ∈ calls, call.Exact chains watched)
    (holders : HoldersWatched calls watched range) :
    (databaseRun viem keccak256 isAddress calls).OnChainIn viem chains watched range.Reads :=
  onChain_run watches fun call called => (exact_ call called).promisedIn (holders call called)

/-- A hundred USDp are minted on the first savings chain. -/
def mintLog : MinedLog where
  address := "0x9b3a8f7cec208e247d97dee13313690977e24459"
  blockNumber := 22639010
  blockHash := sampleHash 15
  transactionHash := sampleHash 1
  transactionIndex := 0
  logIndex := 0
  topics := ["Transfer(address,address,uint256)"]
  data := "0x"
  removed := false

/-- A package that decodes every log to the mint. -/
def mintViem : Viem where
  decodeEventLog := fun _ _ _ => some ⟨"Transfer", some (.object
    [("from", .text ZERO_ADDRESS), ("to", .text alice), ("value", .bigint 100)])⟩
  toEventSelector := id

/-- The lifetime range in one chunk. -/
def mintChunk : Chunk where
  chainId := 1
  scope := ethereumLifetime.scope
  runId := 0
  range := ⟨ethereumLifetime.fromBlock, ethereumLifetime.goalBlock⟩
  logs := [mintLog.toLog]
  blocks := [⟨22639010, sampleHash 15, "0x", 15⟩,
    ⟨ethereumLifetime.goalBlock, sampleHash 16, "0x", 1784171669⟩]
  anchor := none

/-- The addresses of the tokens on all chains. -/
def tokenAddresses : List String := (usdpDeployments ++ susdpDeployments).map (·.address)

theorem watchesRoles_tokenAddresses (chainId : ℕ) :
    WatchesRoles tokenAddresses chainId tokenRoles := by
  refine watchesRoles_of_decoders fun entry mem _ token => ?_
  rcases mem_decoders mem with ⟨adapter, known, rfl | rfl⟩ | rfl
  · obtain ⟨deployments, deployed, rfl⟩ := List.mem_map.mp known
    refine ⟨deployments.1.address, List.mem_map_of_mem (List.mem_append_left _ ?_), rfl⟩
    exact List.mem_append_left _ (List.mem_map_of_mem deployed)
  · obtain ⟨deployments, deployed, rfl⟩ := List.mem_map.mp known
    refine ⟨deployments.2.address, List.mem_map_of_mem (List.mem_append_right _ ?_), rfl⟩
    exact List.mem_map_of_mem deployed
  · simp [tokenRoles] at token

theorem watchesVaults_tokenAddresses : WatchesVaults fun _ => tokenAddresses :=
  fun lane address role wanted => watchesRoles_tokenAddresses lane.chainId address role
    (List.mem_cons_of_mem _ wanted)

/-- The range is indexed, and both rebuilds follow. -/
def mintCalls : List DatabaseCall :=
  [.analytics ⟨0, .persistChunk none mintChunk blankCounters⟩,
    .rebuildFlowAnalytics ⟨ethereumLifetime.scope, ethereumLifetime.fromBlock,
      ethereumLifetime.goalBlock, some 1, none, none⟩ fun _ => none,
    .rebuildHolderLedger ethereumAdapter ethereumLifetime.scope ethereumLifetime.fromBlock
      ethereumLifetime.goalBlock none none]

theorem exact_mintCalls : ∀ call ∈ mintCalls,
    call.Exact (fun _ => .single mintLog) fun _ => tokenAddresses := by
  have hashes : sampleHash 15 ≠ "" ∧ sampleHash 1 ≠ "" := by decide +kernel
  intro call called
  simp only [mintCalls, List.mem_cons, List.not_mem_nil, or_false] at called
  rcases called with rfl | rfl | rfl
  · show mintChunk.Exact (fun _ => .single mintLog) fun _ => tokenAddresses
    refine exact_singleChunk mintChunk rfl ?_ ⟨mintLog.address, ?_, rfl⟩ ?_
    · simp [mintLog, MinedLog.toLog, Log.mined, hashes]
    · decide +kernel
    · decide
  · trivial
  · trivial

theorem holdersWatched_mintCalls :
    HoldersWatched mintCalls (fun _ => tokenAddresses) ethereumLifetime :=
  fun _ _ _ _ _ => watchesRoles_tokenAddresses _

/-- The row of the chain. -/
theorem dashboardRow_mintCalls :
    let row := ((databaseRun mintViem id (Text.isHex 40) mintCalls).dashboard
      fun _ => 0).dashboardRow ethereumLifetime
    row.publicationStatus = .published ∧ (row.asset .usdp).map (·.mintedVolume) = some 100 := by
  decide +kernel

end UsdpIndexer
