import UsdpIndexer.Indexer.Decoder
import UsdpIndexer.Indexer.Planner
import UsdpIndexer.Library.KeyedTable

/-!
# The indexer's store

The tables of `db/schema.ts` that the indexer writes, as lists of rows, and the
uniqueness constraint of each as a key function for
`UsdpIndexer.Library.KeyedTable`.

A `bigserial` column draws from a sequence, which is part of the state; an
insert that runs into a conflict has already drawn its number.  A numeric text
column is the number.  Columns that nothing in the program reads back
(`inserted_at`, `updated_at`, and the like) are left out.
-/

namespace UsdpIndexer

/-- What a run of the indexer counts. -/
structure IngestionCounters where
  chunks : ℕ
  blocksCovered : ℤ
  logsFetched : ℕ
  rawLogsInserted : ℕ
  duplicateRawLogs : ℕ
  eventsDecoded : ℕ
  decodeFailures : ℕ
  rpcRetries : ℕ
  chunkReductions : ℕ
deriving DecidableEq, Repr

/-- Nothing is counted yet. -/
def blankCounters : IngestionCounters := ⟨0, 0, 0, 0, 0, 0, 0, 0, 0⟩

/-! ## Rows -/

/-- A row of `blocks`. -/
structure BlockRow where
  chainId : ℕ
  number : ℤ
  hash : String
  parentHash : String
  timestamp : ℤ
  finalized : Bool
deriving DecidableEq, Repr

/-- A row of `raw_logs`. -/
structure RawLogRow where
  id : ℕ
  chainId : ℕ
  blockNumber : ℤ
  blockHash : String
  transactionHash : String
  transactionIndex : ℕ
  logIndex : ℕ
  contractAddress : String
  topics : List String
  data : String
  removed : Bool
  decoderVersion : String
  runId : ℕ
deriving DecidableEq, Repr

/-- A row of `protocol_events`. -/
structure ProtocolEventRow where
  rawLogId : ℕ
  chainId : ℕ
  blockNumber : ℤ
  transactionHash : String
  logIndex : ℕ
  contractRole : String
  eventName : String
  payload : Json
  decoderVersion : String

/-- A row of `indexer_coverage`. -/
structure CoverageRow where
  chainId : ℕ
  scope : String
  fromBlock : ℤ
  toBlock : ℤ
  runId : ℕ
deriving DecidableEq, Repr

/-- A row of `indexer_checkpoints`. -/
structure CheckpointRow where
  chainId : ℕ
  scope : String
  nextBlock : ℤ
  lastCompletedBlock : Option ℤ
  lastCompletedBlockHash : Option String
deriving DecidableEq, Repr

/-- How far a run has come. -/
inductive IndexerRunStatus
  | running
  | completed
  | failed
  | interrupted
deriving DecidableEq, Repr

/-- A row of `indexer_runs`. -/
structure IndexerRunRow where
  id : ℕ
  chainId : ℕ
  fromBlock : ℤ
  toBlock : ℤ
  status : IndexerRunStatus
  counters : IngestionCounters
  failure : Option String
deriving DecidableEq, Repr

/-! ## Uniqueness constraints -/

/-- Primary key of `blocks`. -/
def BlockRow.key (row : BlockRow) : ℕ × ℤ := (row.chainId, row.number)

/-- `blocks_chain_hash_unique`. -/
def BlockRow.hashKey (row : BlockRow) : ℕ × String := (row.chainId, row.hash)

/-- `raw_logs_chain_tx_log_unique`. -/
def RawLogRow.key (row : RawLogRow) : ℕ × String × ℕ :=
  (row.chainId, row.transactionHash, row.logIndex)

/-- `indexer_coverage_scope_range_unique`. -/
def CoverageRow.key (row : CoverageRow) : ℕ × String × ℤ × ℤ :=
  (row.chainId, row.scope, row.fromBlock, row.toBlock)

/-- Primary key of `indexer_checkpoints`. -/
def CheckpointRow.key (row : CheckpointRow) : ℕ × String := (row.chainId, row.scope)

/-! ## The database -/

/-- The tables that the indexer writes; `raw_logs` takes its ids from a sequence. -/
structure Database where
  blocks : List BlockRow
  rawLogs : List RawLogRow
  rawLogSequence : ℕ
  protocolEvents : List ProtocolEventRow
  coverage : List CoverageRow
  checkpoints : List CheckpointRow
  runs : List IndexerRunRow

/-- No row. -/
def Database.empty : Database := ⟨[], [], 0, [], [], [], []⟩

/-- `select … from indexer_checkpoints where chain_id = … and scope = …`. -/
def Database.checkpoint (db : Database) (chainId : ℕ) (scope : String) : Option CheckpointRow :=
  KeyedTable.lookup CheckpointRow.key db.checkpoints (chainId, scope)

/-- The stored resume point of a scope. -/
def Database.nextBlock (db : Database) (chainId : ℕ) (scope : String) : Option ℤ :=
  (db.checkpoint chainId scope).map (·.nextBlock)

/-- The coverage ranges of a scope. -/
def Database.coverageRanges (db : Database) (chainId : ℕ) (scope : String) : List BlockRange :=
  (db.coverage.filter fun row => row.chainId = chainId ∧ row.scope = scope).map
    fun row => ⟨row.fromBlock, row.toBlock⟩

/-- A block is covered by the rows of a scope. -/
theorem Database.covered_coverageRanges {db : Database} {chainId : ℕ} {scope : String}
    {block : ℤ} :
    Covered (db.coverageRanges chainId scope) block
      ↔ ∃ row ∈ db.coverage, row.chainId = chainId ∧ row.scope = scope ∧
          row.fromBlock ≤ block ∧ block ≤ row.toBlock := by
  simp only [Covered, IntegerCover.Covers, coverageRanges, List.mem_map, List.mem_filter,
    decide_eq_true_eq]
  constructor
  · rintro ⟨range, ⟨row, ⟨mem, same⟩, rfl⟩, inside⟩
    exact ⟨row, mem, same.1, same.2, inside⟩
  · rintro ⟨row, mem, chain, scope, inside⟩
    exact ⟨⟨row.fromBlock, row.toBlock⟩, ⟨row, ⟨mem, chain, scope⟩, rfl⟩, inside⟩

/-- The decoded events of a chain that are wanted, each with its block:
`protocol_events` joined with `blocks`, ordered by block and log index. -/
def Database.selectEvents (db : Database) (chainId : ℕ) (wanted : ProtocolEventRow → Bool) :
    List (BlockRow × ProtocolEventRow) :=
  let rows := db.protocolEvents.filter fun event => event.chainId = chainId ∧ wanted event
  let ordered := StableOrder.sortBy
    (StableOrder.lexCompare (·.blockNumber) fun event => event.logIndex) rows
  ordered.filterMap fun event =>
    (KeyedTable.lookup BlockRow.key db.blocks (chainId, event.blockNumber)).map (·, event)

/-! ## Lanes -/

/-- Where a run of the indexer writes: its chain and its scope. -/
@[ext] structure Lane where
  chainId : ℕ
  scope : String
deriving DecidableEq, Repr

/-- The blocks covered for a lane. -/
def Database.CoveredFor (db : Database) (lane : Lane) (block : ℤ) : Prop :=
  Covered (db.coverageRanges lane.chainId lane.scope) block

/-- The stored resume point of a lane. -/
def Database.resumePoint (db : Database) (lane : Lane) : Option ℤ :=
  db.nextBlock lane.chainId lane.scope

/-- The stored anchor of a lane. -/
def Database.lastCompleted (db : Database) (lane : Lane) : Option ℤ :=
  (db.checkpoint lane.chainId lane.scope).bind (·.lastCompletedBlock)

end UsdpIndexer
