import UsdpIndexer.Analytics.DashboardReadiness
import UsdpIndexer.Indexer.EventBlocks
import UsdpIndexer.Library.DerivedTable

/-!
# The flow totals of the dashboard

A rebuild replaces the buckets of one provenance, which names the manifest and the version of
the calculation besides the range; the dashboard adds up the buckets of a range, whatever
else their provenance says.  So each provenance under which a range has been rebuilt counts
all its events once more.  `flowTotals_iff` is the condition on the runs under which that does
no harm.
-/

namespace UsdpIndexer

open KeyedTable StableOrder FailingFold EconomicEvents

/-! ## The totals -/

/-- The events of one name that the vault has emitted in a range. -/
def vaultEvents (index : Database) (range : LifetimeDashboardRange) (eventName : String) :
    List ProtocolEventRow :=
  (eventsBetween index range.chainId range.fromBlock range.goalBlock).filter fun event =>
    event.contractRole = "susdp-savings" ∧ event.eventName = eventName

/-- What all deposits and withdrawals that are indexed in a range add up to. -/
def vaultTotals (index : Database) (range : LifetimeDashboardRange) : LifetimeFlowMetric where
  depositedAssets :=
    ((vaultEvents index range "Deposit").map fun event => assetsOf event.payload).sum
  withdrawnAssets :=
    ((vaultEvents index range "Withdraw").map fun event => assetsOf event.payload).sum
  depositCount := (vaultEvents index range "Deposit").length
  withdrawCount := (vaultEvents index range "Withdraw").length

/-! ## The runs -/

/-- Rebuilds one after the other, if all of them succeed. -/
def rebuildFlows (isAddress : String → Bool) (index : Database) :
    List RebuildFlowAnalyticsOptions → FlowTables → Option FlowTables
  | [], tables => some tables
  | options :: runs, tables =>
      match rebuildFlowAnalytics isAddress index options none tables with
      | (.ok result, tables) =>
          if result.isCandidate then rebuildFlows isAddress index runs tables else none
      | (.error _, _) => none

/-- The provenance of the range, under some manifest and some calculation. -/
def FlowProvenance.Over (provenance : FlowProvenance) (range : LifetimeDashboardRange) : Prop :=
  provenance.chainId = range.chainId ∧ provenance.fromBlock = range.fromBlock ∧
    provenance.toBlock = range.goalBlock

instance (provenance : FlowProvenance) (range : LifetimeDashboardRange) :
    Decidable (provenance.Over range) :=
  inferInstanceAs (Decidable (_ ∧ _))

/-- All rebuilds of the range were made under one manifest and one calculation. -/
def OneProvenance (runs : List RebuildFlowAnalyticsOptions) (range : LifetimeDashboardRange) :
    Prop :=
  ∀ run ∈ runs, ∀ other ∈ runs, run.provenance.Over range → other.provenance.Over range →
    run.manifestVersion = other.manifestVersion ∧ run.calculationVersion = other.calculationVersion

/-- The row shows the totals of its range.  A row without flows stands for none, once the
range has been rebuilt. -/
structure LifetimeDashboardRow.ShowsTotals (row : LifetimeDashboardRow) (index : Database)
    (runs : List RebuildFlowAnalyticsOptions) : Prop where
  shown : ∀ flow, row.flows = some flow → flow = vaultTotals index row.range
  blank : row.flows = none → (∃ run ∈ runs, run.provenance.Over row.range) →
    vaultTotals index row.range = ⟨0, 0, 0, 0⟩

/-- The dashboard has a row for the range, and it shows the totals. -/
def ShowsTotals (db : DashboardDatabase) (runs : List RebuildFlowAnalyticsOptions)
    (range : LifetimeDashboardRange) : Prop :=
  ∃ row ∈ readLifetimeDashboard db, row.range = range ∧ row.ShowsTotals db.index runs

theorem showsTotals_iff {db : DashboardDatabase} {runs : List RebuildFlowAnalyticsOptions}
    {range : LifetimeDashboardRange} (known : range ∈ lifetimeDashboardRanges) :
    ShowsTotals db runs range ↔
      (∀ flow, (db.dashboardRow range).flows = some flow → flow = vaultTotals db.index range) ∧
      ((db.dashboardRow range).flows = none → (∃ run ∈ runs, run.provenance.Over range) →
        vaultTotals db.index range = ⟨0, 0, 0, 0⟩) := by
  constructor
  · rintro ⟨row, mem, same, shown, blank⟩
    obtain rfl := (mem_readLifetimeDashboard known).mp ⟨mem, same⟩
    exact ⟨shown, blank⟩
  · rintro ⟨shown, blank⟩
    obtain ⟨mem, same⟩ := (mem_readLifetimeDashboard known).mpr (Eq.refl (db.dashboardRow range))
    exact ⟨_, mem, same, shown, blank⟩

/-! ## One derivation -/

section Derivation

variable {isAddress : String → Bool} {index : Database} {chainId : ℕ} {fromBlock toBlock : ℤ}
  {metric : NativeFlowMetric} {eventName : String}

/-- No event is lost where the events meet their blocks. -/
theorem vaultFlow_sourceEvents (anchored : index.EventsHaveBlocks) :
    ((sourceEvents index chainId fromBlock toBlock).filterMap (vaultFlow eventName)).Perm
      (((eventsBetween index chainId fromBlock toBlock).filter fun event =>
        event.contractRole = "susdp-savings" ∧ event.eventName = eventName).map fun event =>
          assetsOf event.payload) := by
  have joined : ∀ event ∈ sortBy compareTransaction (eventsBetween index chainId fromBlock toBlock),
      ((lookup BlockRow.key index.blocks (event.chainId, event.blockNumber)).map
        (sourceEvent · event)).bind (vaultFlow eventName)
      = (if event.contractRole = "susdp-savings" ∧ event.eventName = eventName then
          some (assetsOf event.payload) else none) := by
    intro event mem
    have stored := anchored event (List.mem_filter.mp (mem_sortBy.mp mem)).1
    cases found : lookup BlockRow.key index.blocks (event.chainId, event.blockNumber) with
    | none => exact absurd stored ((lookup_eq_none_iff BlockRow.key).mp found)
    | some block => rfl
  rw [sourceEvents, List.filterMap_filterMap, List.filterMap_congr joined, ← List.filterMap_eq_map,
    List.filterMap_filter]
  simpa using (perm_sortBy compareTransaction _).filterMap _

/-- **The daily buckets of a range** add up to the events of the range. -/
theorem sum_days (anchored : index.EventsHaveBlocks) (vault : VaultFlow metric eventName)
    {derived : DerivedFlows}
    (derives : deriveRange isAddress index chainId fromBlock toBlock = .ok derived) :
    let days := derived.aggregates.filter fun aggregate =>
      aggregate.granularity = .day ∧ aggregate.metric = metric
    let events := (eventsBetween index chainId fromBlock toBlock).filter fun event =>
      event.contractRole = "susdp-savings" ∧ event.eventName = eventName
    (days.map (·.amountBaseUnits)).sum = (events.map fun event => assetsOf event.payload).sum ∧
      (days.map (·.eventCount)).sum = events.length := by
  intro days events
  obtain ⟨economicEvents, classified, derives⟩ := bind_eq_ok.mp derives
  obtain ⟨hours, hourly, derives⟩ := bind_eq_ok.mp derives
  obtain ⟨daily, added, derives⟩ := bind_eq_ok.mp derives
  cases derives
  obtain ⟨hourGranularity, -, -⟩ := aggregateNativeFlows_eq_ok hourly
  obtain ⟨dayGranularity, -, sums⟩ := aggregateNativeFlows_eq_ok added
  have selected : days = daily.filter (·.metric = metric) := by
    have noHours : (hours.filter fun aggregate =>
        aggregate.granularity = .day ∧ aggregate.metric = metric) = [] := by
      refine List.filter_eq_nil_iff.mpr fun aggregate mem => ?_
      simp [hourGranularity aggregate mem]
    have allDays : (daily.filter fun aggregate =>
        aggregate.granularity = .day ∧ aggregate.metric = metric)
        = daily.filter (·.metric = metric) := by
      refine List.filter_congr fun aggregate mem => ?_
      simp [dayGranularity aggregate mem]
    show (hours ++ daily).filter _ = _
    rw [List.filter_append, noHours, allDays, List.nil_append]
  have flows := (flows_of_classifyProtocolTransactions vault classified).trans
    (vaultFlow_sourceEvents anchored)
  rw [selected, (sums metric).1, (sums metric).2]
  exact ⟨flows.sum_eq, by rw [flows.length_eq, List.length_map]⟩

end Derivation

/-! ## All runs -/

section Runs

variable {isAddress : String → Bool} {index : Database}

/-- The rows that a provenance stands for. -/
def derivedFlows (isAddress : String → Bool) (index : Database) (provenance : FlowProvenance) :
    List FlowAggregateRow :=
  match deriveRange isAddress index provenance.chainId provenance.fromBlock provenance.toBlock with
  | .ok derived => flowRows provenance derived.aggregates
  | .error _ => []

theorem provenance_derivedFlows (provenance : FlowProvenance) :
    ∀ row ∈ derivedFlows isAddress index provenance, row.provenance = provenance := by
  intro row mem
  unfold derivedFlows at mem
  split at mem
  · obtain ⟨aggregate, -, rfl⟩ := List.mem_map.mp mem
    rfl
  · exact absurd mem List.not_mem_nil

/-- A successful rebuild derives the group of its provenance anew. -/
theorem rebuildFlows_cons {options : RebuildFlowAnalyticsOptions}
    {runs : List RebuildFlowAnalyticsOptions} {tables tables' : FlowTables}
    (rebuilt : rebuildFlows isAddress index (options :: runs) tables = some tables') :
    ∃ next : FlowTables, rebuildFlows isAddress index runs next = some tables' ∧
      (∃ derived, deriveRange isAddress index options.chainId options.fromBlock options.toBlock
        = .ok derived) ∧
      next.flowAggregates = DerivedTable.replaceGroup FlowAggregateRow.provenance
        (derivedFlows isAddress index) tables.flowAggregates options.provenance := by
  unfold rebuildFlows at rebuilt
  split at rebuilt
  · rename_i result next run
    split at rebuilt
    · rename_i succeeded
      obtain ⟨derived, derives, written⟩ := rebuildFlowAnalytics_candidate run succeeded
      refine ⟨next, rebuilt, ⟨derived, derives⟩, ?_⟩
      have rows : derivedFlows isAddress index options.provenance
          = flowRows options.provenance derived.aggregates := by
        unfold derivedFlows RebuildFlowAnalyticsOptions.provenance
        simp only [derives]
      rw [written, DerivedTable.replaceGroup, rows]
    · cases rebuilt
  · cases rebuilt

/-- **The buckets after a sequence of rebuilds** are those of every provenance that was
rebuilt, once. -/
theorem holds_rebuildFlows {runs : List RebuildFlowAnalyticsOptions} :
    ∀ {tables tables' : FlowTables} {keys : Finset FlowProvenance},
      DerivedTable.Holds (derivedFlows isAddress index) keys tables.flowAggregates →
      rebuildFlows isAddress index runs tables = some tables' →
      DerivedTable.Holds (derivedFlows isAddress index)
        (keys ∪ (runs.map RebuildFlowAnalyticsOptions.provenance).toFinset)
        tables'.flowAggregates := by
  induction runs with
  | nil =>
      intro tables tables' keys holds rebuilt
      cases rebuilt
      simpa using holds
  | cons options runs ih =>
      intro tables tables' keys holds rebuilt
      obtain ⟨next, rest, -, written⟩ := rebuildFlows_cons rebuilt
      have replaced := holds.replaceGroup provenance_derivedFlows options.provenance
      rw [← written] at replaced
      have union : keys ∪ ((options :: runs).map RebuildFlowAnalyticsOptions.provenance).toFinset
          = insert options.provenance keys
            ∪ (runs.map RebuildFlowAnalyticsOptions.provenance).toFinset := by
        rw [List.map_cons, List.toFinset_cons, Finset.union_insert, Finset.insert_union]
      rw [union]
      exact ih replaced rest

theorem holds_rebuildFlows_empty {runs : List RebuildFlowAnalyticsOptions} {tables : FlowTables}
    (rebuilt : rebuildFlows isAddress index runs .empty = some tables) :
    DerivedTable.Holds (derivedFlows isAddress index)
      (runs.map RebuildFlowAnalyticsOptions.provenance).toFinset tables.flowAggregates := by
  have start : DerivedTable.Holds (derivedFlows isAddress index) ∅
      FlowTables.empty.flowAggregates := .nil
  rw [← Finset.empty_union (runs.map RebuildFlowAnalyticsOptions.provenance).toFinset]
  exact holds_rebuildFlows start rebuilt

/-- Every range that was rebuilt can be derived. -/
theorem derives_of_rebuildFlows {runs : List RebuildFlowAnalyticsOptions} :
    ∀ {tables tables' : FlowTables}, rebuildFlows isAddress index runs tables = some tables' →
      ∀ run ∈ runs, ∃ derived,
        deriveRange isAddress index run.chainId run.fromBlock run.toBlock = .ok derived := by
  induction runs with
  | nil =>
      intro tables tables' _ run mem
      exact absurd mem List.not_mem_nil
  | cons options runs ih =>
      intro tables tables' rebuilt run mem
      obtain ⟨next, rest, derives, -⟩ := rebuildFlows_cons rebuilt
      rcases List.mem_cons.mp mem with rfl | behind
      · exact derives
      · exact ih rest run behind

end Runs

/-! ## What the dashboard adds up -/

section Dashboard

variable {isAddress : String → Bool} {db : DashboardDatabase}
  {runs : List RebuildFlowAnalyticsOptions} {tables : FlowTables} {range : LifetimeDashboardRange}

/-- The provenances under which a range has been rebuilt. -/
def provenancesOver (runs : List RebuildFlowAnalyticsOptions) (range : LifetimeDashboardRange) :
    Finset FlowProvenance :=
  (runs.map RebuildFlowAnalyticsOptions.provenance).toFinset.filter (·.Over range)

theorem mem_provenancesOver {provenance : FlowProvenance} :
    provenance ∈ provenancesOver runs range
      ↔ (∃ run ∈ runs, run.provenance = provenance) ∧ provenance.Over range := by
  rw [provenancesOver, Finset.mem_filter, List.mem_toFinset, List.mem_map]

theorem oneProvenance_iff : OneProvenance runs range ↔ (provenancesOver runs range).card ≤ 1 := by
  rw [Finset.card_le_one]
  constructor
  · intro one a ha b hb
    obtain ⟨⟨run, mem, rfl⟩, ofRange⟩ := mem_provenancesOver.mp ha
    obtain ⟨⟨other, mem', rfl⟩, ofRange'⟩ := mem_provenancesOver.mp hb
    obtain ⟨manifest, calculation⟩ := one run mem other mem' ofRange ofRange'
    have chain := ofRange.1.trans ofRange'.1.symm
    have fromBlock := ofRange.2.1.trans ofRange'.2.1.symm
    have toBlock := ofRange.2.2.trans ofRange'.2.2.symm
    rw [FlowProvenance.mk.injEq]
    exact ⟨chain, fromBlock, toBlock, manifest, calculation⟩
  · intro one run mem other mem' ofRange ofRange'
    have same := one _ (mem_provenancesOver.mpr ⟨⟨run, mem, rfl⟩, ofRange⟩) _
      (mem_provenancesOver.mpr ⟨⟨other, mem', rfl⟩, ofRange'⟩)
    exact ⟨congrArg FlowProvenance.manifestVersion same,
      congrArg FlowProvenance.calculationVersion same⟩

/-- The daily buckets of a metric among the rows of one provenance. -/
theorem sum_derivedFlows (anchored : db.index.EventsHaveBlocks)
    (rebuilt : rebuildFlows isAddress db.index runs .empty = some tables)
    {metric : NativeFlowMetric} {eventName : String} (vault : VaultFlow metric eventName)
    {provenance : FlowProvenance} (mem : provenance ∈ provenancesOver runs range) :
    let rows := (derivedFlows isAddress db.index provenance).filter fun row =>
      row.aggregate.granularity = .day ∧ row.aggregate.metric = metric
    (rows.map (·.aggregate.amountBaseUnits)).sum
        = ((vaultEvents db.index range eventName).map fun event => assetsOf event.payload).sum ∧
      (rows.map (·.aggregate.eventCount)).sum = (vaultEvents db.index range eventName).length := by
  intro rows
  obtain ⟨⟨run, called, rfl⟩, chain, fromBlock, toBlock⟩ := mem_provenancesOver.mp mem
  obtain ⟨derived, derives⟩ := derives_of_rebuildFlows rebuilt run called
  have sums := sum_days anchored vault derives
  have split : rows = flowRows run.provenance (derived.aggregates.filter fun aggregate =>
      aggregate.granularity = .day ∧ aggregate.metric = metric) := by
    show (derivedFlows isAddress db.index run.provenance).filter _ = _
    unfold derivedFlows RebuildFlowAnalyticsOptions.provenance
    simp only [derives]
    exact List.filter_map
  rw [split, flowRows, List.map_map, List.map_map, vaultEvents, ← chain, ← fromBlock, ← toBlock]
  exact sums

/-- **What a row adds up**: the totals, once for every provenance. -/
theorem sum_flowGroup (anchored : db.index.EventsHaveBlocks)
    (rebuilt : rebuildFlows isAddress db.index runs .empty = some tables)
    (flows : db.flows = tables.flowAggregates) (known : range ∈ lifetimeDashboardRanges)
    {metric : NativeFlowMetric} {eventName : String} (vault : VaultFlow metric eventName) :
    let rows := (db.flowGroup range).filter (·.aggregate.metric = metric)
    (rows.map (·.aggregate.amountBaseUnits)).sum = (provenancesOver runs range).card
        * ((vaultEvents db.index range eventName).map fun event => assetsOf event.payload).sum ∧
      (rows.map (·.aggregate.eventCount)).sum
        = (provenancesOver runs range).card * (vaultEvents db.index range eventName).length := by
  intro rows
  have chainId : range.chainId ∈ dashboardChainIds := List.mem_map_of_mem known
  have selected : rows = (tables.flowAggregates.filter fun row =>
      row.aggregate.granularity = .day ∧ row.aggregate.metric = metric).filter fun row =>
        row.provenance.Over range := by
    show ((db.flowGroup range).filter _) = _
    rw [DashboardDatabase.flowGroup, flows, List.filter_filter, List.filter_filter]
    refine List.filter_congr fun row _ => ?_
    rw [← Bool.decide_and, ← Bool.decide_and, decide_eq_decide, FlowProvenance.Over]
    constructor
    · rintro ⟨same, -, day, ofRange⟩
      exact ⟨ofRange, day, same⟩
    · rintro ⟨ofRange, day, same⟩
      exact ⟨same, by rw [ofRange.1]; exact chainId, day, ofRange⟩
  have holds := (holds_rebuildFlows_empty rebuilt).filter fun row =>
    row.aggregate.granularity = .day ∧ row.aggregate.metric = metric
  have owned (provenance : FlowProvenance) :
      ∀ row ∈ (derivedFlows isAddress db.index provenance).filter fun row =>
        row.aggregate.granularity = .day ∧ row.aggregate.metric = metric,
      row.provenance = provenance := fun row mem =>
    provenance_derivedFlows provenance row (List.mem_filter.mp mem).1
  have total (f : FlowAggregateRow → ℕ) := holds.sum_eq owned (fun k => k.Over range) f
  have each (provenance : FlowProvenance) (mem : provenance ∈ provenancesOver runs range) :=
    sum_derivedFlows anchored rebuilt vault mem
  rw [selected, total, total]
  exact ⟨Finset.sum_const_nat fun provenance mem => (each provenance mem).1,
    Finset.sum_const_nat fun provenance mem => (each provenance mem).2⟩

/-- A row has buckets only if its range has been rebuilt. -/
theorem exists_provenance_of_flowGroup_ne_nil
    (rebuilt : rebuildFlows isAddress db.index runs .empty = some tables)
    (flows : db.flows = tables.flowAggregates) (buckets : db.flowGroup range ≠ []) :
    (provenancesOver runs range).card ≠ 0 := by
  obtain ⟨row, mem⟩ := List.exists_mem_of_ne_nil _ buckets
  rw [DashboardDatabase.flowGroup, flows, List.mem_filter, decide_eq_true_iff] at mem
  obtain ⟨stored, -, -, ofRange⟩ := mem
  have key := (holds_rebuildFlows_empty rebuilt).key_mem provenance_derivedFlows stored
  exact Finset.card_ne_zero_of_mem (Finset.mem_filter.mpr ⟨key, ofRange⟩)

/-- Totals that are counted several times over. -/
def LifetimeFlowMetric.times (k : ℕ) (flow : LifetimeFlowMetric) : LifetimeFlowMetric :=
  ⟨k * flow.depositedAssets, k * flow.withdrawnAssets, k * flow.depositCount,
    k * flow.withdrawCount⟩

theorem LifetimeFlowMetric.times_one (flow : LifetimeFlowMetric) : flow.times 1 = flow := by
  simp [times]

/-- The flows of a row: the totals, once for every provenance. -/
theorem flows_dashboardRow (anchored : db.index.EventsHaveBlocks)
    (rebuilt : rebuildFlows isAddress db.index runs .empty = some tables)
    (flows : db.flows = tables.flowAggregates) (known : range ∈ lifetimeDashboardRanges) :
    (∀ flow, (db.dashboardRow range).flows = some flow →
        (provenancesOver runs range).card ≠ 0 ∧
          flow = (vaultTotals db.index range).times (provenancesOver runs range).card) ∧
      ((db.dashboardRow range).flows = none →
        (vaultTotals db.index range).times (provenancesOver runs range).card = ⟨0, 0, 0, 0⟩) := by
  have deposits := sum_flowGroup anchored rebuilt flows known .deposited
  have withdrawals := sum_flowGroup anchored rebuilt flows known .withdrawn
  have unfolded : (db.dashboardRow range).flows = db.flow range := rfl
  rw [unfolded, DashboardDatabase.flow]
  constructor
  · intro flow shown
    split at shown
    · cases shown
    · rename_i buckets
      cases shown
      refine ⟨exists_provenance_of_flowGroup_ne_nil rebuilt flows buckets, ?_⟩
      rw [deposits.1, deposits.2, withdrawals.1, withdrawals.2]
      rfl
  · intro blank
    split at blank
    · rename_i empty
      rw [empty] at deposits withdrawals
      rw [LifetimeFlowMetric.mk.injEq]
      exact ⟨deposits.1.symm, withdrawals.1.symm, deposits.2.symm, withdrawals.2.symm⟩
    · cases blank

end Dashboard

/-- **When the totals of a row are right**: the range has been rebuilt under one provenance,
or there is nothing to count. -/
theorem flowTotals_iff (isAddress : String → Bool) (db : DashboardDatabase)
    (anchored : db.index.EventsHaveBlocks) (runs : List RebuildFlowAnalyticsOptions)
    (tables : FlowTables) (rebuilt : rebuildFlows isAddress db.index runs .empty = some tables)
    (flows : db.flows = tables.flowAggregates) (range : LifetimeDashboardRange)
    (known : range ∈ lifetimeDashboardRanges) :
    ShowsTotals db runs range ↔ OneProvenance runs range ∨
      (vaultEvents db.index range "Deposit" = [] ∧ vaultEvents db.index range "Withdraw" = []) := by
  obtain ⟨shown, blank⟩ := flows_dashboardRow anchored rebuilt flows known
  rw [oneProvenance_iff, showsTotals_iff known]
  constructor
  · rintro ⟨right, -⟩
    by_cases one : (provenancesOver runs range).card ≤ 1
    · exact .inl one
    · -- counted twice, or oftener, a number stays as it is only if it is zero
      have vanishes (n : ℕ) (same : (provenancesOver runs range).card * n = n ∨
          (provenancesOver runs range).card * n = 0) : n = 0 := by
        have twice := Nat.mul_le_mul_right n (not_le.mp one)
        omega
      refine .inr ?_
      cases flow : (db.dashboardRow range).flows with
      | none =>
          have zero := blank flow
          exact ⟨List.eq_nil_of_length_eq_zero
              (vanishes _ (.inr (congrArg LifetimeFlowMetric.depositCount zero))),
            List.eq_nil_of_length_eq_zero
              (vanishes _ (.inr (congrArg LifetimeFlowMetric.withdrawCount zero)))⟩
      | some flow' =>
          have same := (shown flow' flow).2.symm.trans (right flow' flow)
          exact ⟨List.eq_nil_of_length_eq_zero
              (vanishes _ (.inl (congrArg LifetimeFlowMetric.depositCount same))),
            List.eq_nil_of_length_eq_zero
              (vanishes _ (.inl (congrArg LifetimeFlowMetric.withdrawCount same)))⟩
  · rintro (one | ⟨noDeposit, noWithdraw⟩)
    · have once (rebuiltOnce : (provenancesOver runs range).card ≠ 0) :
          (vaultTotals db.index range).times (provenancesOver runs range).card
            = vaultTotals db.index range := by
        have card : (provenancesOver runs range).card = 1 := by omega
        rw [card, LifetimeFlowMetric.times_one]
      refine ⟨fun flow row => ?_, fun row ⟨run, called, ofRange⟩ => ?_⟩
      · obtain ⟨rebuiltOnce, value⟩ := shown flow row
        rw [value, once rebuiltOnce]
      · rw [← once, blank row]
        exact Finset.card_ne_zero_of_mem (mem_provenancesOver.mpr ⟨⟨run, called, rfl⟩, ofRange⟩)
    · have zero : vaultTotals db.index range = ⟨0, 0, 0, 0⟩ := by
        rw [vaultTotals, noDeposit, noWithdraw]
        rfl
      refine ⟨fun flow row => ?_, fun _ _ => zero⟩
      rw [(shown flow row).2, zero]
      rfl

/-! ## A deposit in the window of HyperEVM -/

/-- The range of the dashboard on HyperEVM. -/
def hyperevmWindow : LifetimeDashboardRange :=
  ⟨999, "hyperevm", "HyperEVM", "parallel-savings-hyperevm-1783558757-1784163557-v1", .window,
    39958147, 40572940⟩

/-- The window is indexed, and 250 USDp have been deposited in it. -/
def depositIndex : Database where
  blocks := [⟨999, 40000000, "0xb1", "0xb0", 1783600000, true⟩]
  rawLogs := [⟨0, 999, 40000000, "0xb1", "0xf1", 0, 3, hyperevmSusdpAddress, [], "0x", false,
    "susdp-savings-v1", 0⟩]
  rawLogSequence := 1
  protocolEvents := [⟨0, 999, 40000000, "0xf1", 3, "susdp-savings", "Deposit",
    .object [("sender", .text "0x00000000000000000000000000000000000000a1"),
      ("owner", .text "0x00000000000000000000000000000000000000a1"),
      ("assets", .decimal 250), ("shares", .decimal 200)], "susdp-savings-v1"⟩]
  coverage := [⟨999, "parallel-savings-hyperevm-1783558757-1784163557-v1", 39958147, 40572940, 0⟩]
  checkpoints := []
  runs := []

theorem eventsHaveBlocks_depositIndex : depositIndex.EventsHaveBlocks := by
  intro event mem
  obtain rfl := List.mem_singleton.mp mem
  decide

/-- A rebuild of the window under a manifest. -/
def windowRebuild (manifestVersion : String) : RebuildFlowAnalyticsOptions where
  scope := "parallel-savings-hyperevm-1783558757-1784163557-v1"
  fromBlock := 39958147
  toBlock := 40572940
  chainId? := some 999
  manifestVersion? := some manifestVersion
  calculationVersion? := none

/-- What the dashboard reads after a rebuild. -/
def depositDashboard (tables : FlowTables) : DashboardDatabase :=
  ⟨depositIndex, [], tables.flowAggregates, []⟩

/-- The worker's rebuild alone shows the deposit as it is. -/
theorem flowTotals_worker : ∃ tables,
    rebuildFlows (Text.isHex 40) depositIndex
      [windowRebuild "hyperevm-usdp-susdp-state-v1-candidate"] .empty = some tables ∧
    ShowsTotals (depositDashboard tables)
      [windowRebuild "hyperevm-usdp-susdp-state-v1-candidate"] hyperevmWindow := by
  obtain ⟨tables, rebuilt⟩ : ∃ tables, rebuildFlows (Text.isHex 40) depositIndex
      [windowRebuild "hyperevm-usdp-susdp-state-v1-candidate"] .empty = some tables :=
    Option.isSome_iff_exists.mp (by decide +kernel)
  have one : OneProvenance [windowRebuild "hyperevm-usdp-susdp-state-v1-candidate"]
      hyperevmWindow := by
    intro run mem other mem' _ _
    rw [List.mem_singleton.mp mem, List.mem_singleton.mp mem']
    exact ⟨rfl, rfl⟩
  exact ⟨tables, rebuilt, (flowTotals_iff (Text.isHex 40) (depositDashboard tables)
    eventsHaveBlocks_depositIndex _ tables rebuilt rfl hyperevmWindow (by decide)).mpr (.inl one)⟩

/-- **After the command line has derived the same window, the deposit counts twice.** -/
theorem flowTotals_fails_renamed :
    ¬ ∀ (isAddress : String → Bool) (db : DashboardDatabase)
      (runs : List RebuildFlowAnalyticsOptions) (tables : FlowTables)
      (range : LifetimeDashboardRange), db.index.EventsHaveBlocks →
      rebuildFlows isAddress db.index runs .empty = some tables →
      db.flows = tables.flowAggregates → range ∈ lifetimeDashboardRanges →
      (∀ run ∈ runs, run.provenance.Over range) → ShowsTotals db runs range := by
  intro right
  have doubled : (rebuildFlows (Text.isHex 40) depositIndex
      [windowRebuild "hyperevm-usdp-susdp-state-v1-candidate",
        windowRebuild "parallel-assets-hyperevm-lifetime-v1-candidate"] .empty).map
        (fun tables => ((depositDashboard tables).dashboardRow hyperevmWindow).flows)
      = some (some ⟨500, 0, 2, 0⟩) := by decide +kernel
  obtain ⟨tables, rebuilt, shown⟩ := Option.map_eq_some_iff.mp doubled
  obtain ⟨row, mem, same, shows⟩ := right (Text.isHex 40) (depositDashboard tables) _ tables
    hyperevmWindow eventsHaveBlocks_depositIndex rebuilt rfl (by decide) (by decide)
  obtain rfl := (mem_readLifetimeDashboard (by decide)).mp ⟨mem, same⟩
  have totals : (⟨500, 0, 2, 0⟩ : LifetimeFlowMetric) = vaultTotals depositIndex hyperevmWindow :=
    shows.shown _ shown
  exact absurd totals (by decide)

end UsdpIndexer
