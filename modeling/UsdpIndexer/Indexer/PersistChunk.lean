import UsdpIndexer.Indexer.Store
import UsdpIndexer.Library.Transaction

/-!
# Persisting one chunk

`persistChunk` of `indexer/service.ts`: one transaction that inserts the blocks
of a fetched chunk, its logs, the events decoded from the logs that were new,
a coverage row, and the checkpoint of the scope.

The transaction is written statement by statement over
`UsdpIndexer.Library.Transaction`: the counters live in the memory of the
process and survive a rollback, the tables do not.  A statement can fail for
reasons the program does not see — a lost connection, a failing disk — and
`fault` says at which statement that happens, if at any.

`persistChunk_committed` is the summary every later proof uses: a committed
chunk has inserted its blocks and mined logs, and the tables are `writeChunk` of
what was there; `persistChunk_rolledBack` says that nothing else can happen.
-/

namespace UsdpIndexer

open Text

/-! ## Logs and blocks as RPC returns them -/

/-- A log as the RPC client returns it; the fields of a pending log are null. -/
structure Log where
  address : String
  blockNumber : Option ℤ
  blockHash : Option String
  transactionHash : Option String
  transactionIndex : Option ℕ
  logIndex : Option ℕ
  topics : List String
  data : String
  removed : Bool
deriving DecidableEq, Repr

/-- A log whose position on the chain is known. -/
structure MinedLog where
  address : String
  blockNumber : ℤ
  blockHash : String
  transactionHash : String
  transactionIndex : ℕ
  logIndex : ℕ
  topics : List String
  data : String
  removed : Bool
deriving DecidableEq, Repr

/-- The null checks at the head of `persistChunk`. -/
def Log.mined (log : Log) : Except JsError MinedLog :=
  match log.blockNumber, log.blockHash, log.transactionHash, log.transactionIndex,
      log.logIndex with
  | some blockNumber, some blockHash, some transactionHash, some transactionIndex,
      some logIndex =>
      -- `!log.blockHash` is true of the empty string as well
      if blockHash = "" ∨ transactionHash = "" then
        .error ⟨"RPC returned an incomplete mined log"⟩
      else .ok ⟨log.address, blockNumber, blockHash, transactionHash, transactionIndex,
        logIndex, log.topics, log.data, log.removed⟩
  | _, _, _, _, _ => .error ⟨"RPC returned an incomplete mined log"⟩

/-- A block as the provider returns it; one that is not mined has no number. -/
structure RpcBlock where
  number : Option ℤ
  hash : Option String
  parentHash : String
  timestamp : ℤ
deriving DecidableEq, Repr

/-- A block that is mined. -/
structure StoredBlock where
  number : ℤ
  hash : String
  parentHash : String
  timestamp : ℤ
deriving DecidableEq, Repr

/-- A block of the provider, if it is mined. -/
def asStoredBlock (block : RpcBlock) : Except JsError StoredBlock :=
  match block.number, block.hash with
  | some number, some hash =>
      if hash = "" then .error ⟨"RPC returned an unmined block"⟩
      else .ok ⟨number, hash, block.parentHash, block.timestamp⟩
  | _, _ => .error ⟨"RPC returned an unmined block"⟩

theorem asStoredBlock_number {block : RpcBlock} {stored : StoredBlock}
    (result : asStoredBlock block = .ok stored) : block.number = some stored.number := by
  unfold asStoredBlock at result
  split at result
  · split at result
    · cases result
    · cases result; assumption
  · cases result

/-! ## The statements -/

/-- The points at which the database can fail under the program. -/
inductive PersistStatement
  | connect
  | begin
  | selectBlocks
  | insertBlocks
  | insertRawLogs
  | insertProtocolEvents
  | insertCoverage
  | upsertCheckpoint
  | commit
deriving DecidableEq, Repr

/-- A chunk transaction: tables that roll back, counters that do not. -/
abbrev ChunkTransaction (A : Type) := Transaction Database IngestionCounters JsError A

/-- Fail here, if the fault is at this statement. -/
def failAt (fault : Option (PersistStatement × JsError)) (statement : PersistStatement) :
    ChunkTransaction PUnit :=
  match fault with
  | some (failing, error) => if failing = statement then .fail error else pure ⟨⟩
  | none => pure ⟨⟩

theorem failAt_eq_ok {fault : Option (PersistStatement × JsError)}
    {statement : PersistStatement} {db db' : Database} {counters counters' : IngestionCounters}
    {u : PUnit} (passed : failAt fault statement db counters = .ok (u, db', counters')) :
    db' = db ∧ counters' = counters := by
  unfold failAt at passed
  split at passed
  · split at passed
    · cases passed
    · exact (Transaction.pure_eq_ok.mp passed).2
  · exact (Transaction.pure_eq_ok.mp passed).2

/-- What runs on after a possible fault runs on unchanged. -/
theorem failAt_bind {fault : Option (PersistStatement × JsError)}
    {statement : PersistStatement} {A : Type} {rest : PUnit → ChunkTransaction A} {db : Database}
    {counters : IngestionCounters} {a : A × Database × IngestionCounters}
    (passed : (failAt fault statement >>= rest) db counters = .ok a) :
    rest ⟨⟩ db counters = .ok a := by
  obtain ⟨a, db', counters'⟩ := a
  rw [Transaction.bind_eq_ok] at passed
  obtain ⟨u, d, m, first, rest⟩ := passed
  obtain ⟨rfl, rfl⟩ := failAt_eq_ok first
  exact rest

/-- The blocks of a batch by number: a later block replaces an earlier one of
the same number in its place. -/
def uniqueBlocks (blocks : List StoredBlock) : List StoredBlock :=
  KeyedTable.upsertAll StoredBlock.number [] blocks

/-- The first block of the batch that contradicts a stored block. -/
def findHashDrift (db : Database) (chainId : ℕ) (rows : List StoredBlock) :
    Option (StoredBlock × String) :=
  rows.findSome? fun block =>
    match KeyedTable.lookup BlockRow.key db.blocks (chainId, block.number) with
    | some stored =>
        -- an empty string is falsy, so it contradicts nothing
        if toLowerCase stored.hash ≠ "" ∧ toLowerCase stored.hash ≠ toLowerCase block.hash then
          some (block, toLowerCase stored.hash)
        else none
    | none => none

/-- The row of a block, with its hashes in lower case. -/
def blockRow (chainId : ℕ) (block : StoredBlock) : BlockRow where
  chainId := chainId
  number := block.number
  hash := toLowerCase block.hash
  parentHash := toLowerCase block.parentHash
  timestamp := block.timestamp
  finalized := true

/-- `insert into blocks … on conflict (chain_id, number) do nothing`, under the
check on the hash and the second unique index of the table. -/
def insertBlockRows (chainId : ℕ) (rows : List StoredBlock) (db : Database) :
    Except JsError (PUnit × Database) :=
  let incoming := rows.map (blockRow chainId)
  let blocks := KeyedTable.insertNew BlockRow.key db.blocks incoming
  -- the check is made of every row, also of those that are skipped as conflicts
  if ¬ incoming.all fun row => isHex 64 row.hash then
    .error ⟨"new row for relation \"blocks\" violates check constraint \"blocks_hash_check\""⟩
  else if ¬ (blocks.map BlockRow.hashKey).Nodup then
    .error ⟨"duplicate key value violates unique constraint \"blocks_chain_hash_unique\""⟩
  else .ok (⟨⟩, { db with blocks })

/-- The blocks are compared with the stored ones, and those that are new are stored. -/
def insertBlocks (fault : Option (PersistStatement × JsError)) (chainId : ℕ)
    (blocks : List StoredBlock) : ChunkTransaction PUnit :=
  if blocks = [] then pure ⟨⟩
  else do
    let rows := uniqueBlocks blocks
    failAt fault .selectBlocks
    Transaction.statement fun db =>
      match findHashDrift db chainId rows with
      | some (block, existingHash) =>
          .error ⟨s!"Block hash drift at {block.number}: stored {existingHash}, RPC {block.hash}"⟩
      | none => .ok ((⟨⟩ : PUnit), db)
    failAt fault .insertBlocks
    Transaction.statement (insertBlockRows chainId rows)

/-- The row of a log, with its hashes and its address in lower case. -/
def rawLogRow (chainId runId id : ℕ) (log : MinedLog) : RawLogRow where
  id := id
  chainId := chainId
  blockNumber := log.blockNumber
  blockHash := toLowerCase log.blockHash
  transactionHash := toLowerCase log.transactionHash
  transactionIndex := log.transactionIndex
  logIndex := log.logIndex
  contractAddress := toLowerCase log.address
  topics := log.topics
  data := log.data
  removed := log.removed
  decoderVersion := decoderVersionForAddress chainId log.address
  runId := runId

/-- The rows an insert proposes, each with the next number of the sequence. -/
def rawLogRows (chainId runId : ℕ) : ℕ → List MinedLog → List RawLogRow
  | _, [] => []
  | id, log :: logs => rawLogRow chainId runId id log :: rawLogRows chainId runId (id + 1) logs

/-- The rows that `insert into raw_logs … on conflict … do nothing` adds. -/
def newRawLogs (chainId runId : ℕ) (logs : List MinedLog) (db : Database) : List RawLogRow :=
  KeyedTable.fresh RawLogRow.key db.rawLogs (rawLogRows chainId runId db.rawLogSequence logs)

/-- `insert into raw_logs … returning id, transaction_hash, log_index`. -/
def insertRawLogs (chainId runId : ℕ) (logs : List MinedLog) (db : Database) :
    Except JsError (List RawLogRow × Database) :=
  let inserted := newRawLogs chainId runId logs db
  if ¬ logs.all fun log => isHex 40 (toLowerCase log.address) then
    .error ⟨"new row for relation \"raw_logs\" violates check constraint " ++
      "\"raw_logs_contract_address_check\""⟩
  -- the foreign key, unlike the check, concerns the rows that go in
  else if ¬ inserted.all fun row =>
      (row.chainId, row.blockNumber) ∈ db.blocks.map BlockRow.key then
    .error ⟨"insert or update on table \"raw_logs\" violates foreign key constraint " ++
      "\"raw_logs_block_fk\""⟩
  else .ok (inserted, { db with
    rawLogs := db.rawLogs ++ inserted
    rawLogSequence := db.rawLogSequence + logs.length })

/-- What a foreign key on a block asks for. -/
def Database.hasBlock (db : Database) (chainId : ℕ) (blockNumber : ℤ) : Bool :=
  (chainId, blockNumber) ∈ db.blocks.map BlockRow.key

/-- The row that was inserted for a log, by transaction hash and log index. -/
def insertedRow (inserted : List RawLogRow) (log : MinedLog) : Option RawLogRow :=
  inserted.find? fun row =>
    toLowerCase row.transactionHash = toLowerCase log.transactionHash ∧
      row.logIndex = log.logIndex

/-- The event row of a decoded log. -/
def protocolEventRow (chainId : ℕ) (rawLogId : ℕ) (log : MinedLog)
    (decoded : DecodedProtocolEvent) : ProtocolEventRow where
  rawLogId := rawLogId
  chainId := chainId
  blockNumber := log.blockNumber
  transactionHash := toLowerCase log.transactionHash
  logIndex := log.logIndex
  contractRole := decoded.contractRole
  eventName := decoded.eventName
  payload := decoded.payload
  decoderVersion := decoded.decoderVersion

/-- The loop over the fetched logs: the events of those that were inserted, and
the number of known topics that did not decode. -/
def decodeInserted (viem : Viem) (chainId : ℕ) (inserted : List RawLogRow) :
    List MinedLog → List ProtocolEventRow × ℕ
  | [] => ([], 0)
  | log :: logs =>
      let rest := decodeInserted viem chainId inserted logs
      match insertedRow inserted log with
      | none => rest
      | some row =>
          match decodeProtocolLog viem chainId log.address log.data log.topics with
          | none =>
              (rest.1, rest.2 + if isKnownProtocolEventTopic viem log.topics.head? then 1 else 0)
          | some decoded => (protocolEventRow chainId row.id log decoded :: rest.1, rest.2)

/-- The events table after `insert … on conflict (raw_log_id) do nothing`. -/
def addProtocolEvents (events : List ProtocolEventRow) (db : Database) : Database :=
  { db with
    protocolEvents := KeyedTable.insertNew ProtocolEventRow.rawLogId db.protocolEvents events }

/-- `insert into protocol_events …`, which is left out when nothing decoded. -/
def insertProtocolEvents (fault : Option (PersistStatement × JsError))
    (events : List ProtocolEventRow) : ChunkTransaction PUnit :=
  if events = [] then pure ⟨⟩
  else do
    failAt fault .insertProtocolEvents
    Transaction.statement fun db => .ok (⟨⟩, addProtocolEvents events db)

/-- The coverage table after `insert … on conflict … do nothing`. -/
def addCoverage (chainId : ℕ) (scope : String) (runId : ℕ) (range : BlockRange)
    (db : Database) : Database :=
  { db with
    coverage := KeyedTable.insertNew CoverageRow.key db.coverage
      [⟨chainId, scope, range.fromBlock, range.toBlock, runId⟩] }

/-- `insert into indexer_coverage …`, under the check on the range. -/
def insertCoverage (chainId : ℕ) (scope : String) (runId : ℕ) (range : BlockRange)
    (db : Database) : Except JsError (PUnit × Database) :=
  if range.toBlock < range.fromBlock then
    .error ⟨"new row for relation \"indexer_coverage\" violates check constraint " ++
      "\"indexer_coverage_range_check\""⟩
  else .ok (⟨⟩, addCoverage chainId scope runId range db)

/-- The row a checkpoint becomes on conflict: the resume point is overwritten,
the anchor columns only where the new row has some. -/
def mergeCheckpoint (stored excluded : CheckpointRow) : CheckpointRow :=
  { excluded with
    lastCompletedBlock := excluded.lastCompletedBlock <|> stored.lastCompletedBlock
    lastCompletedBlockHash :=
      excluded.lastCompletedBlockHash <|> stored.lastCompletedBlockHash }

/-- `insert into indexer_checkpoints … on conflict … do update`. -/
def upsertCheckpoint (chainId : ℕ) (scope : String) (range : BlockRange)
    (anchor : Option StoredBlock) (db : Database) : Database :=
  { db with
    checkpoints := KeyedTable.upsert CheckpointRow.key mergeCheckpoint db.checkpoints
      { chainId := chainId
        scope := scope
        nextBlock := range.toBlock + 1
        lastCompletedBlock := anchor.map (·.number)
        lastCompletedBlockHash := anchor.map fun block => toLowerCase block.hash } }

/-! ## The transaction -/

/-- Everything a chunk brings into the transaction. -/
structure Chunk where
  chainId : ℕ
  scope : String
  runId : ℕ
  range : BlockRange
  logs : List Log
  blocks : List StoredBlock
  anchor : Option StoredBlock

/-- The body of `persistChunk`, between `connect` and `commit`. -/
def persistChunkBody (viem : Viem) (fault : Option (PersistStatement × JsError))
    (chunk : Chunk) : ChunkTransaction PUnit := do
  failAt fault .connect
  failAt fault .begin
  insertBlocks fault chunk.chainId (chunk.blocks ++ chunk.anchor.toList)
  let logs ← Transaction.compute (chunk.logs.mapM Log.mined)
  failAt fault .insertRawLogs
  let inserted ← Transaction.statement (insertRawLogs chunk.chainId chunk.runId logs)
  -- what is counted from here on stays counted if a later statement fails
  Transaction.assign fun counters =>
    { counters with
      rawLogsInserted := counters.rawLogsInserted + inserted.length
      duplicateRawLogs := counters.duplicateRawLogs + (logs.length - inserted.length) }
  let decoded := decodeInserted viem chunk.chainId inserted logs
  Transaction.assign fun counters =>
    { counters with decodeFailures := counters.decodeFailures + decoded.2 }
  insertProtocolEvents fault decoded.1
  Transaction.assign fun counters =>
    { counters with eventsDecoded := counters.eventsDecoded + decoded.1.length }
  failAt fault .insertCoverage
  Transaction.statement (insertCoverage chunk.chainId chunk.scope chunk.runId chunk.range)
  failAt fault .upsertCheckpoint
  Transaction.statement fun db =>
    .ok (⟨⟩, upsertCheckpoint chunk.chainId chunk.scope chunk.range chunk.anchor db)
  failAt fault .commit

/-- `persistChunk`: commit, or roll back and rethrow. -/
def persistChunk (viem : Viem) (fault : Option (PersistStatement × JsError)) (chunk : Chunk)
    (db : Database) (counters : IngestionCounters) :
    Transaction.Outcome Database IngestionCounters JsError PUnit :=
  (persistChunkBody viem fault chunk).exec db counters

/-! ## What a committed chunk has done -/

/-- The tables after a chunk, from the tables with its blocks in place. -/
def writeChunk (viem : Viem) (chunk : Chunk) (logs : List MinedLog) (db : Database) :
    Database :=
  let inserted := newRawLogs chunk.chainId chunk.runId logs db
  let withLogs := { db with
    rawLogs := db.rawLogs ++ inserted
    rawLogSequence := db.rawLogSequence + logs.length }
  upsertCheckpoint chunk.chainId chunk.scope chunk.range chunk.anchor
    (addCoverage chunk.chainId chunk.scope chunk.runId chunk.range
      (addProtocolEvents (decodeInserted viem chunk.chainId inserted logs).1 withLogs))

/-- The rows that a batch of blocks proposes. -/
def blockRows (chainId : ℕ) (blocks : List StoredBlock) : List BlockRow :=
  (uniqueBlocks blocks).map (blockRow chainId)

/-- Inserting blocks touches no other table and keeps the blocks that are
there. -/
theorem insertBlocks_eq_ok {fault : Option (PersistStatement × JsError)} {chainId : ℕ}
    {blocks : List StoredBlock} {db db' : Database} {counters counters' : IngestionCounters}
    {u : PUnit} (passed : insertBlocks fault chainId blocks db counters = .ok (u, db', counters')) :
    counters' = counters ∧ db' = { db with
      blocks := KeyedTable.insertNew BlockRow.key db.blocks (blockRows chainId blocks) } := by
  unfold insertBlocks at passed
  split at passed
  · rename_i empty
    obtain ⟨-, rfl, rfl⟩ := Transaction.pure_eq_ok.mp passed
    rw [empty]
    exact ⟨rfl, by simp [KeyedTable.insertNew, blockRows, uniqueBlocks, KeyedTable.upsertAll]⟩
  · replace passed := failAt_bind passed
    rw [Transaction.statement_bind_eq_ok] at passed
    obtain ⟨_, d, drift, passed⟩ := passed
    replace passed := failAt_bind passed
    rw [Transaction.statement_eq_ok] at passed
    obtain ⟨passed, rfl⟩ := passed
    split at drift
    · cases drift
    · cases drift
      unfold insertBlockRows at passed
      simp only at passed
      split at passed
      · cases passed
      · split at passed
        · cases passed
        · cases passed
          exact ⟨rfl, rfl⟩

theorem insertProtocolEvents_eq_ok {fault : Option (PersistStatement × JsError)}
    {events : List ProtocolEventRow} {db db' : Database}
    {counters counters' : IngestionCounters} {u : PUnit}
    (passed : insertProtocolEvents fault events db counters = .ok (u, db', counters')) :
    counters' = counters ∧ db' = addProtocolEvents events db := by
  unfold insertProtocolEvents at passed
  split at passed
  · rename_i empty
    obtain ⟨-, rfl, rfl⟩ := Transaction.pure_eq_ok.mp passed
    exact ⟨rfl, by simp [addProtocolEvents, KeyedTable.insertNew, empty]⟩
  · replace passed := failAt_bind passed
    rw [Transaction.statement_eq_ok] at passed
    obtain ⟨result, rfl⟩ := passed
    cases result
    exact ⟨rfl, rfl⟩

/-- The rows that a chunk proposes for the blocks table. -/
def Chunk.blockRows (chunk : Chunk) : List BlockRow :=
  UsdpIndexer.blockRows chunk.chainId (chunk.blocks ++ chunk.anchor.toList)

/-- The tables with the blocks of a chunk in place. -/
def Chunk.withBlocks (chunk : Chunk) (db : Database) : Database :=
  { db with blocks := KeyedTable.insertNew BlockRow.key db.blocks chunk.blockRows }

/-- **A committed chunk.**  Its blocks went in first, all its logs were mined,
its range was not empty, every new log has its block, and the other tables are
`writeChunk` of what was there. -/
theorem persistChunk_committed {viem : Viem} {fault : Option (PersistStatement × JsError)}
    {chunk : Chunk} {db : Database} {counters : IngestionCounters}
    (committed : (persistChunk viem fault chunk db counters).result = .ok ⟨⟩) :
    ∃ logs, chunk.logs.mapM Log.mined = .ok logs ∧
      chunk.range.fromBlock ≤ chunk.range.toBlock ∧
      (∀ row ∈ newRawLogs chunk.chainId chunk.runId logs db,
        (row.chainId, row.blockNumber) ∈ (chunk.withBlocks db).blocks.map BlockRow.key) ∧
      (persistChunk viem fault chunk db counters).database
        = writeChunk viem chunk logs (chunk.withBlocks db) := by
  have run := Transaction.exec_result_ok committed
  rw [← persistChunk] at run
  -- the statements are peeled off one by one, in the order of the body
  generalize persistChunk viem fault chunk db counters = outcome at run
  replace run := failAt_bind (failAt_bind run)
  rw [Transaction.bind_eq_ok] at run
  obtain ⟨_, stored, m, blocks, run⟩ := run
  obtain ⟨rfl, rfl⟩ := insertBlocks_eq_ok blocks
  rw [Transaction.compute_bind_eq_ok] at run
  obtain ⟨logs, mined, run⟩ := run
  replace run := failAt_bind run
  rw [Transaction.statement_bind_eq_ok] at run
  obtain ⟨inserted, withLogs, insert, run⟩ := run
  simp only [Transaction.assign_bind] at run
  rw [Transaction.bind_eq_ok] at run
  obtain ⟨_, withEvents, m', events, run⟩ := run
  obtain ⟨rfl, rfl⟩ := insertProtocolEvents_eq_ok events
  rw [Transaction.assign_bind] at run
  replace run := failAt_bind run
  rw [Transaction.statement_bind_eq_ok] at run
  obtain ⟨_, withCoverage, coverage, run⟩ := run
  replace run := failAt_bind run
  rw [Transaction.statement_bind_eq_ok] at run
  obtain ⟨_, withCheckpoint, checkpoint, run⟩ := run
  obtain ⟨final, -⟩ := failAt_eq_ok run
  unfold insertRawLogs at insert
  unfold insertCoverage at coverage
  simp only at insert
  split at insert
  · cases insert
  · split at insert
    · cases insert
    · rename_i anchored
      rw [Classical.not_not, List.all_eq_true] at anchored
      split at coverage
      · cases coverage
      · cases insert
        cases coverage
        cases checkpoint
        exact ⟨logs, mined, by omega, fun row mem => of_decide_eq_true (anchored row mem), final⟩

/-- Where a chunk is written. -/
def Chunk.lane (chunk : Chunk) : Lane := ⟨chunk.chainId, chunk.scope⟩

/-- The checkpoint a chunk leaves for its scope. -/
def Chunk.checkpoint (chunk : Chunk) (stored : Option CheckpointRow) : CheckpointRow where
  chainId := chunk.chainId
  scope := chunk.scope
  nextBlock := chunk.range.toBlock + 1
  lastCompletedBlock := chunk.anchor.map (·.number) <|> stored.bind (·.lastCompletedBlock)
  lastCompletedBlockHash := (chunk.anchor.map fun block => toLowerCase block.hash) <|>
    stored.bind (·.lastCompletedBlockHash)

theorem checkpoint_writeChunk (viem : Viem) (chunk : Chunk) (logs : List MinedLog)
    (db : Database) :
    (writeChunk viem chunk logs db).checkpoint chunk.chainId chunk.scope
      = some (chunk.checkpoint (db.checkpoint chunk.chainId chunk.scope)) := by
  have upserted := KeyedTable.lookup_upsert_self CheckpointRow.key mergeCheckpoint
    db.checkpoints
    { chainId := chunk.chainId
      scope := chunk.scope
      nextBlock := chunk.range.toBlock + 1
      lastCompletedBlock := chunk.anchor.map (·.number)
      lastCompletedBlockHash := chunk.anchor.map fun block => toLowerCase block.hash }
    (fun _ _ => rfl)
  refine Eq.trans upserted (congrArg some ?_)
  show ((db.checkpoint chunk.chainId chunk.scope).map _).getD _ = _
  cases db.checkpoint chunk.chainId chunk.scope with
  | none => simp [Chunk.checkpoint]
  | some stored => rfl

/-- A chunk leaves the checkpoints of other lanes alone. -/
theorem checkpoint_writeChunk_of_ne (viem : Viem) {chunk : Chunk} (logs : List MinedLog)
    (db : Database) {lane : Lane} (other : lane ≠ chunk.lane) :
    (writeChunk viem chunk logs db).checkpoint lane.chainId lane.scope
      = db.checkpoint lane.chainId lane.scope := by
  refine KeyedTable.lookup_upsert_of_ne CheckpointRow.key mergeCheckpoint db.checkpoints
    (fun _ _ => rfl) fun same => other ?_
  simp only [CheckpointRow.key, Prod.mk.injEq] at same
  exact Lane.ext same.1 same.2

/-- A chunk covers its range, for its scope. -/
theorem covered_writeChunk (viem : Viem) (chunk : Chunk) (logs : List MinedLog) (db : Database)
    {chainId : ℕ} {scope : String} {block : ℤ} :
    Covered ((writeChunk viem chunk logs db).coverageRanges chainId scope) block
      ↔ Covered (db.coverageRanges chainId scope) block ∨
        (chunk.chainId = chainId ∧ chunk.scope = scope) ∧
          chunk.range.fromBlock ≤ block ∧ block ≤ chunk.range.toBlock := by
  rw [Database.covered_coverageRanges, Database.covered_coverageRanges]
  show (∃ row ∈ KeyedTable.insertNew CoverageRow.key db.coverage
    [⟨chunk.chainId, chunk.scope, chunk.range.fromBlock, chunk.range.toBlock, chunk.runId⟩], _) ↔ _
  constructor
  · rintro ⟨row, mem, chain, inScope, inside⟩
    rcases (KeyedTable.mem_insertNew _).mp mem with old | new
    · exact .inl ⟨row, old, chain, inScope, inside⟩
    · obtain rfl := List.mem_singleton.mp (KeyedTable.mem_of_mem_fresh _ new)
      exact .inr ⟨⟨chain, inScope⟩, inside⟩
  · rintro (⟨row, old, rest⟩ | ⟨⟨chain, inScope⟩, inside⟩)
    · exact ⟨row, (KeyedTable.mem_insertNew _).mpr (.inl old), rest⟩
    · -- the row is there, if only under an earlier run
      obtain ⟨stored, mem, key⟩ := KeyedTable.exists_row_of_mem_insertNew CoverageRow.key
        db.coverage (List.mem_singleton_self
          (⟨chunk.chainId, chunk.scope, chunk.range.fromBlock, chunk.range.toBlock,
            chunk.runId⟩ : CoverageRow))
      simp only [CoverageRow.key, Prod.mk.injEq] at key
      obtain ⟨sameChain, sameScope, first, last⟩ := key
      exact ⟨stored, mem, sameChain.trans chain, sameScope.trans inScope, by omega, by omega⟩

/-- Coverage rows are not empty ranges. -/
theorem coverage_valid_writeChunk (viem : Viem) {chunk : Chunk} (logs : List MinedLog)
    {db : Database} (nonempty : chunk.range.fromBlock ≤ chunk.range.toBlock)
    (valid : ∀ row ∈ db.coverage, row.fromBlock ≤ row.toBlock) :
    ∀ row ∈ (writeChunk viem chunk logs db).coverage, row.fromBlock ≤ row.toBlock := by
  intro row mem
  rcases (KeyedTable.mem_insertNew _).mp mem with old | new
  · exact valid row old
  · obtain rfl := List.mem_singleton.mp (KeyedTable.mem_of_mem_fresh _ new)
    exact nonempty

/-- A chunk that did not commit left every table as it was. -/
theorem persistChunk_rolledBack {viem : Viem} {fault : Option (PersistStatement × JsError)}
    {chunk : Chunk} {db : Database} {counters : IngestionCounters} {error : JsError}
    (failed : (persistChunk viem fault chunk db counters).result = .error error) :
    (persistChunk viem fault chunk db counters).database = db :=
  Transaction.exec_database_of_error failed

/-- The checkpoint after a committed chunk. -/
theorem persistChunk_checkpoint {viem : Viem} {fault : Option (PersistStatement × JsError)}
    {chunk : Chunk} {db : Database} {counters : IngestionCounters}
    (committed : (persistChunk viem fault chunk db counters).result = .ok ⟨⟩) :
    (persistChunk viem fault chunk db counters).database.checkpoint chunk.chainId chunk.scope
      = some (chunk.checkpoint (db.checkpoint chunk.chainId chunk.scope)) := by
  obtain ⟨logs, -, -, -, written⟩ := persistChunk_committed committed
  rw [written, checkpoint_writeChunk]
  rfl

theorem persistChunk_checkpoint_of_ne {viem : Viem}
    {fault : Option (PersistStatement × JsError)} {chunk : Chunk} {db : Database}
    {counters : IngestionCounters} {lane : Lane}
    (committed : (persistChunk viem fault chunk db counters).result = .ok ⟨⟩)
    (other : lane ≠ chunk.lane) :
    (persistChunk viem fault chunk db counters).database.checkpoint lane.chainId lane.scope
      = db.checkpoint lane.chainId lane.scope := by
  obtain ⟨logs, -, -, -, written⟩ := persistChunk_committed committed
  rw [written, checkpoint_writeChunk_of_ne viem logs _ other]
  rfl

end UsdpIndexer
