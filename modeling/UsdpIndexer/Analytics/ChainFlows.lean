import UsdpIndexer.Analytics.ChainYield
import UsdpIndexer.Analytics.FlowHistory

/-!
# Flow buckets are those of the chain

The daily buckets of a provenance add up to the deposits and withdrawals that the vault has
logged in the range (`FlowTables.OnChain`).  A rebuild that finds its range complete makes it
so for its own provenance, and leaves the others alone.
-/

namespace UsdpIndexer

open KeyedTable hiding Unique
open EconomicEvents

/-- The assets that the events of one name among these logs move. -/
def flowsOf (viem : Viem) (chainId : ℕ) (eventName : String) (logs : List MinedLog) : List ℕ :=
  ((logs.filterMap (chainEvent viem chainId)).filter (·.eventName = eventName)).map
    fun event => assetsOf event.payload

/-- The daily buckets of a metric under a provenance. -/
def FlowTables.days (tables : FlowTables) (provenance : FlowProvenance)
    (metric : NativeFlowMetric) : List FlowAggregate :=
  ((tables.rowsOf provenance).map (·.aggregate)).filter fun aggregate =>
    aggregate.granularity = .day ∧ aggregate.metric = metric

/-- Buckets that add up to these flows. -/
structure SumTo (buckets : List FlowAggregate) (flows : List ℕ) : Prop where
  amounts : (buckets.map (·.amountBaseUnits)).sum = flows.sum
  counts : (buckets.map (·.eventCount)).sum = flows.length

/-- Where there are buckets of a provenance, those of the days add up to what the vault has
logged in the range. -/
structure FlowTables.OnChain (viem : Viem) (chains : ℕ → ChainLogs) (tables : FlowTables) :
    Prop where
  unique : KeyedTable.Unique FlowAggregateRow.key tables.flowAggregates
  days : ∀ provenance, tables.rowsOf provenance ≠ [] →
    ∃ logs, (chains provenance.chainId).Lists provenance.chainId vaultRoles provenance.fromBlock
        provenance.toBlock logs ∧
      ∀ metric eventName, VaultFlow metric eventName →
        SumTo (tables.days provenance metric) (flowsOf viem provenance.chainId eventName logs)

section Rebuild

variable {viem : Viem} {chains : ℕ → ChainLogs} {watched : Lane → List String}
  {isAddress : String → Bool} {call : FlowCall} {tables : FlowTables}

theorem FlowTables.OnChain.empty : FlowTables.OnChain viem chains .empty where
  unique := unique_nil _
  days := fun _ rows => absurd rfl rows

/-- A call that has rebuilt something has found its range complete. -/
theorem FlowCall.complete_of_candidate {report : FlowRebuildResult}
    (result : (call.rebuild isAddress tables).1 = .ok report) (candidate : report.isCandidate) :
    ∃ coverage, verifyCoverage call.index call.options.scope call.options.fromBlock
      call.options.toBlock call.options.chainId = .ok coverage ∧ coverage.complete = true := by
  unfold FlowCall.rebuild at result
  simp only at result
  split at result
  · cases result
  split at result
  · cases result
  rename_i coverage verified
  split at result
  · cases result
    cases candidate
  rename_i complete
  exact ⟨coverage, verified, not_not.mp complete⟩

/-- **What is derived from a covered range** adds up to the logs of the vault. -/
theorem sumTo_derivedDays {index : Database} (indexes : Indexes viem chains watched index)
    (anchored : index.EventsHaveBlocks) {lane : Lane} {fromBlock toBlock : ℤ}
    (watches : WatchesRoles (watched lane) lane.chainId vaultRoles)
    (covered : ∀ block, fromBlock ≤ block → block ≤ toBlock → index.CoveredFor lane block)
    {logs : List MinedLog}
    (lists : (chains lane.chainId).Lists lane.chainId vaultRoles fromBlock toBlock logs)
    {derived : DerivedFlows}
    (derives : deriveRange isAddress index lane.chainId fromBlock toBlock = .ok derived)
    {metric : NativeFlowMetric} {eventName : String} (vault : VaultFlow metric eventName) :
    SumTo (derived.aggregates.filter fun aggregate =>
        aggregate.granularity = .day ∧ aggregate.metric = metric)
      (flowsOf viem lane.chainId eventName logs) := by
  obtain ⟨amounts, counts⟩ := sum_days anchored vault derives
  have events : ((eventsBetween index lane.chainId fromBlock toBlock).filter fun event =>
        event.contractRole = "susdp-savings" ∧ event.eventName = eventName)
      = (index.eventsOf lane.chainId vaultRoles fromBlock toBlock).filter
          (·.eventName = eventName) := by
    rw [eventsBetween, Database.eventsOf, List.filter_filter, List.filter_filter]
    refine List.filter_congr fun event _ => ?_
    simp only [vaultRoles, List.mem_singleton]
    grind
  have decoded := (((indexes.store.events_perm watches covered lists).filter
    (·.eventName = eventName)).map fun event => assetsOf event.payload)
  -- the number of an event plays no part
  rw [List.filter_map, List.map_map] at decoded
  have flows : (((eventsBetween index lane.chainId fromBlock toBlock).filter fun event =>
        event.contractRole = "susdp-savings" ∧ event.eventName = eventName).map
          fun event => assetsOf event.payload).Perm (flowsOf viem lane.chainId eventName logs) := by
    rw [events]
    exact decoded
  refine ⟨amounts.trans flows.sum_eq, counts.trans ?_⟩
  rw [← flows.length_eq, List.length_map]

/-- **A rebuild keeps the buckets on the chain**, whatever its range, its manifest and its
version. -/
theorem FlowTables.OnChain.rebuild (onChain : tables.OnChain viem chains)
    (indexes : Indexes viem chains watched call.index) (anchored : call.index.EventsHaveBlocks)
    (watches : WatchesVaults watched) :
    (call.rebuild isAddress tables).2.OnChain viem chains := by
  have unique := @FlowCall.unique_rebuild isAddress call tables onChain.unique
  have complete (report : FlowRebuildResult) :=
    @FlowCall.complete_of_candidate isAddress call tables report
  generalize ran : call.rebuild isAddress tables = outcome at unique complete ⊢
  cases ran ▸ @FlowCall.ran_rebuild isAddress call tables onChain.unique with
  | stopped => exact onChain
  | rebuilt report derived candidate derives =>
      refine ⟨unique, fun provenance rows => ?_⟩
      by_cases own : provenance = call.options.provenance
      · subst own
        obtain ⟨coverage, verified, covers⟩ := complete report rfl candidate
        have covered := indexes.covered_of_complete verified covers
        obtain ⟨logs, lists⟩ := indexes.store.exists_lists
          (watches ⟨call.options.chainId, call.options.scope⟩) covered
        refine ⟨logs, lists, fun metric eventName vault => ?_⟩
        have days : (call.replaced derived tables).days call.options.provenance metric
            = derived.aggregates.filter fun aggregate =>
                aggregate.granularity = .day ∧ aggregate.metric = metric := by
          rw [FlowTables.days, FlowCall.rowsOf_replaced_self, flowRows, List.map_map]
          exact congrArg _ (List.map_id _)
        rw [days]
        exact sumTo_derivedDays indexes anchored
          (watches ⟨call.options.chainId, call.options.scope⟩) covered lists derives vault
      · have others := @FlowCall.rowsOf_replaced_of_ne call tables derived provenance own
        rw [others] at rows
        obtain ⟨logs, lists, sums⟩ := onChain.days provenance rows
        refine ⟨logs, lists, fun metric eventName vault => ?_⟩
        rw [FlowTables.days, others]
        exact sums metric eventName vault

end Rebuild

end UsdpIndexer
