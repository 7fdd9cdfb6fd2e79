import UsdpIndexer.Analytics.EconomicEvents
import UsdpIndexer.Analytics.HolderLedger

/-!
# Rebuilding the flow tables

`rebuildFlowAnalytics` of `analytics/service.ts`.  The decoded events of a covered range are
classified and added up, and one transaction replaces the buckets of the range under one
manifest and one calculation version: the old rows are deleted and the new ones are
inserted, in batches of 500, into a table with a unique index.  The classified events go into
a table of their own, one row for each event.

A protocol event is numbered by the log it comes from, of which it is the only one.
-/

namespace UsdpIndexer

open KeyedTable StableOrder FailingFold EconomicEvents Batches

/-! ## The tables -/

/-- A row of `economic_events`. -/
structure EconomicEventRow where
  protocolEventId : ℕ
  chainId : ℕ
  blockNumber : ℤ
  transactionHash : String
  logIndex : ℕ
  classification : EconomicClassification
  amountBaseUnits : Option ℕ
  assetAddress : Option String
  primaryParticipant : Option String
  secondaryParticipant : Option String
  eventCount : ℕ
  eventNames : List String
  sourceFromBlock : ℤ
  sourceToBlock : ℤ
  manifestVersion : String
  calculationVersion : String
deriving DecidableEq, Repr

/-- The columns that a conflict leaves as they are are those of the event itself. -/
def mergeEconomicEvent (stored excluded : EconomicEventRow) : EconomicEventRow :=
  { excluded with
    chainId := stored.chainId
    blockNumber := stored.blockNumber
    transactionHash := stored.transactionHash
    logIndex := stored.logIndex }

/-- What a bucket has been derived from, and how. -/
structure FlowProvenance where
  chainId : ℕ
  fromBlock : ℤ
  toBlock : ℤ
  manifestVersion : String
  calculationVersion : String
deriving DecidableEq, Repr

/-- A row of `flow_aggregates`. -/
structure FlowAggregateRow where
  provenance : FlowProvenance
  aggregate : FlowAggregate
deriving DecidableEq, Repr

/-- `flow_aggregates_provenance_bucket_unique`. -/
def FlowAggregateRow.key (row : FlowAggregateRow) :
    FlowProvenance × FlowGranularity × ℤ × NativeFlowMetric :=
  (row.provenance, row.aggregate.granularity, row.aggregate.bucketStart, row.aggregate.metric)

/-- The two tables of the flows. -/
structure FlowTables where
  economicEvents : List EconomicEventRow
  flowAggregates : List FlowAggregateRow
deriving DecidableEq, Repr

/-- No row. -/
def FlowTables.empty : FlowTables := ⟨[], []⟩

/-! ## One rebuild -/

/-- What `rebuildFlowAnalytics` is called with. -/
structure RebuildFlowAnalyticsOptions where
  scope : String
  fromBlock : ℤ
  toBlock : ℤ
  chainId? : Option ℕ
  manifestVersion? : Option String
  calculationVersion? : Option String
deriving DecidableEq, Repr

/-- `hyperevmProtocol.manifestVersion`. -/
def hyperevmManifestVersion : String := "hyperevm-usdp-candidate-v1"

namespace RebuildFlowAnalyticsOptions

variable (options : RebuildFlowAnalyticsOptions)

/-- The chain that is asked for, or HyperEVM. -/
def chainId : ℕ := options.chainId?.getD HYPEREVM_CHAIN_ID

/-- The version that is asked for, or that of the chain. -/
def manifestVersion : String :=
  options.manifestVersion?.getD
    (((savingsChainAdapters.find? (·.chainId = options.chainId)).map (·.manifestVersion)).getD
      hyperevmManifestVersion)

/-- The version that is asked for, or the current one. -/
def calculationVersion : String := options.calculationVersion?.getD FLOW_CALCULATION_VERSION

/-- Under what the rows of the call are stored. -/
def provenance : FlowProvenance :=
  ⟨options.chainId, options.fromBlock, options.toBlock, options.manifestVersion,
    options.calculationVersion⟩

end RebuildFlowAnalyticsOptions

/-- `order by transaction_hash, log_index`. -/
def compareTransaction (a b : ProtocolEventRow) : ℤ :=
  if a.transactionHash < b.transactionHash then -1
  else if b.transactionHash < a.transactionHash then 1
  else (a.logIndex : ℤ) - b.logIndex

/-- A row of the events with the time of its block. -/
def sourceEvent (block : BlockRow) (event : ProtocolEventRow) : ProtocolEventInput where
  id := event.rawLogId
  chainId := event.chainId
  blockNumber := event.blockNumber
  blockTimestamp := 1000 * block.timestamp
  transactionHash := event.transactionHash
  logIndex := event.logIndex
  contractRole := event.contractRole
  eventName := event.eventName
  payload := event.payload

/-- The events of a chain in a range of blocks. -/
def eventsBetween (index : Database) (chainId : ℕ) (fromBlock toBlock : ℤ) :
    List ProtocolEventRow :=
  index.protocolEvents.filter fun event =>
    event.chainId = chainId ∧ fromBlock ≤ event.blockNumber ∧ event.blockNumber ≤ toBlock

/-- They, joined with their blocks. -/
def sourceEvents (index : Database) (chainId : ℕ) (fromBlock toBlock : ℤ) :
    List ProtocolEventInput :=
  (sortBy compareTransaction (eventsBetween index chainId fromBlock toBlock)).filterMap fun event =>
    (lookup BlockRow.key index.blocks (event.chainId, event.blockNumber)).map (sourceEvent · event)

/-- What is derived from a range. -/
structure DerivedFlows where
  sourceEvents : ℕ
  economicEvents : List ClassifiedEconomicEvent
  aggregates : List FlowAggregate

section Rebuild

variable (isAddress : String → Bool)

/-- The events of a range, what they are classified as, and the buckets of both lengths. -/
def deriveRange (index : Database) (chainId : ℕ) (fromBlock toBlock : ℤ) :
    Except JsError DerivedFlows := do
  let events := sourceEvents index chainId fromBlock toBlock
  let economicEvents ← classifyProtocolTransactions isAddress events
  let hours ← aggregateNativeFlows economicEvents .hour
  let days ← aggregateNativeFlows economicEvents .day
  return ⟨events.length, economicEvents, hours ++ days⟩

/-- The row of a classified event. -/
def economicEventRow (provenance : FlowProvenance) (event : ClassifiedEconomicEvent) :
    EconomicEventRow where
  protocolEventId := event.id
  chainId := event.chainId
  blockNumber := event.blockNumber
  transactionHash := event.transactionHash
  logIndex := event.logIndex
  classification := event.classification
  amountBaseUnits := event.amountBaseUnits
  assetAddress := event.assetAddress
  primaryParticipant := event.primaryParticipant
  secondaryParticipant := event.secondaryParticipant
  eventCount := event.transactionEventCount
  eventNames := event.transactionEventNames
  sourceFromBlock := provenance.fromBlock
  sourceToBlock := provenance.toBlock
  manifestVersion := provenance.manifestVersion
  calculationVersion := provenance.calculationVersion

/-- An insert into `flow_aggregates`, without a conflict clause. -/
def insertFlowAggregates (table batch : List FlowAggregateRow) :
    Except JsError (List FlowAggregateRow) :=
  if ((table ++ batch).map FlowAggregateRow.key).Nodup then .ok (table ++ batch)
  else .error ⟨"duplicate key value violates unique constraint " ++
    "\"flow_aggregates_provenance_bucket_unique\""⟩

/-- The transaction. -/
def FlowTables.replaceFlows (tables : FlowTables) (provenance : FlowProvenance)
    (derived : DerivedFlows) : Except JsError FlowTables := do
  let kept := tables.flowAggregates.filter fun row => row.provenance ≠ provenance
  let economicEvents := (batchesOf 500 derived.economicEvents).foldl
    (fun table batch => (batch.map (economicEventRow provenance)).foldl
      (upsert EconomicEventRow.protocolEventId mergeEconomicEvent) table) tables.economicEvents
  let flowAggregates ← (batchesOf 500 derived.aggregates).foldlM
    (fun table batch => insertFlowAggregates table (batch.map fun aggregate =>
      ⟨provenance, aggregate⟩)) kept
  return ⟨economicEvents, flowAggregates⟩

/-- What a rebuild comes to. -/
inductive FlowRebuildResult
  | unavailable (coverage : CoverageReport)
  | candidate (coverage : CoverageReport) (sourceEvents economicEvents aggregates : ℕ)
      (participants : FlowParticipantSummary) (manifestVersion calculationVersion : String)
deriving DecidableEq, Repr

/-- It has written rows. -/
def FlowRebuildResult.isCandidate : FlowRebuildResult → Bool
  | .unavailable _ => false
  | .candidate .. => true

/-- A call that does not get through leaves the tables as they are.  `fault` is the error at
which the database gives the transaction up, if it does. -/
def rebuildFlowAnalytics (index : Database) (options : RebuildFlowAnalyticsOptions)
    (fault : Option JsError) (tables : FlowTables) :
    Except JsError FlowRebuildResult × FlowTables :=
  match verifyCoverage index options.scope options.fromBlock options.toBlock options.chainId with
  | .error error => (.error error, tables)
  | .ok coverage =>
      if ¬ coverage.complete then (.ok (.unavailable coverage), tables)
      else
        match deriveRange isAddress index options.chainId options.fromBlock options.toBlock with
        | .error error => (.error error, tables)
        | .ok derived =>
            match fault with
            | some error => (.error error, tables)
            | none =>
                match tables.replaceFlows options.provenance derived with
                | .error error => (.error error, tables)
                | .ok tables =>
                    (.ok (.candidate coverage derived.sourceEvents derived.economicEvents.length
                      derived.aggregates.length (summarizeFlowParticipants derived.economicEvents)
                      options.manifestVersion options.calculationVersion), tables)

end Rebuild

/-! ## What a rebuild leaves -/

/-- The rows of one provenance. -/
def flowRows (provenance : FlowProvenance) (aggregates : List FlowAggregate) :
    List FlowAggregateRow :=
  aggregates.map fun aggregate => ⟨provenance, aggregate⟩

/-- Inserts that go through have appended their batches. -/
theorem insertBatches_eq_ok {provenance : FlowProvenance} {batches : List (List FlowAggregate)} :
    ∀ {table table' : List FlowAggregateRow}, batches.foldlM (fun table batch =>
        insertFlowAggregates table (batch.map fun aggregate => ⟨provenance, aggregate⟩)) table
      = .ok table' → table' = table ++ flowRows provenance batches.flatten := by
  induction batches with
  | nil =>
      intro table table' run
      cases run
      exact (List.append_nil _).symm
  | cons batch batches ih =>
      intro table table' run
      obtain ⟨inserted, insertion, rest⟩ := foldlM_cons_eq_ok.mp run
      unfold insertFlowAggregates at insertion
      split at insertion
      · cases insertion
        rw [ih rest, List.flatten_cons, flowRows, flowRows, List.map_append, List.append_assoc]
      · cases insertion

/-- **What a rebuild leaves**: the rows of other provenances, and those that it has derived. -/
theorem rebuildFlowAnalytics_candidate {isAddress : String → Bool} {index : Database}
    {options : RebuildFlowAnalyticsOptions} {fault : Option JsError} {tables tables' : FlowTables}
    {result : FlowRebuildResult}
    (rebuilt : rebuildFlowAnalytics isAddress index options fault tables = (.ok result, tables'))
    (succeeded : result.isCandidate) :
    ∃ derived, deriveRange isAddress index options.chainId options.fromBlock options.toBlock
        = .ok derived ∧
      tables'.flowAggregates
        = tables.flowAggregates.filter (fun row => row.provenance ≠ options.provenance)
          ++ flowRows options.provenance derived.aggregates := by
  unfold rebuildFlowAnalytics at rebuilt
  split at rebuilt
  · cases rebuilt
  · split at rebuilt
    · cases rebuilt
      cases succeeded
    · split at rebuilt
      · cases rebuilt
      · rename_i derived derives
        split at rebuilt
        · cases rebuilt
        · split at rebuilt
          · cases rebuilt
          · rename_i replaced
            cases rebuilt
            refine ⟨derived, derives, ?_⟩
            obtain ⟨flowAggregates, inserted, written⟩ := bind_eq_ok.mp replaced
            cases written
            rw [← flatten_batchesOf (by decide : 0 < 500) derived.aggregates]
            exact insertBatches_eq_ok inserted

end UsdpIndexer
