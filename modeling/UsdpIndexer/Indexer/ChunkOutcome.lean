import Mathlib.Data.List.Find
import Mathlib.Tactic.MkIffOfInductiveProp
import UsdpIndexer.Indexer.CoverageSoundness

/-!
# What becomes of a chunk

`persistChunk` counts while its transaction is running, and a rollback takes back the rows but
not the counts.  So there are three things that can become of a chunk: its logs do not get in,
and nothing is counted; they get in and are rolled back, and are counted nevertheless; or the
chunk commits.

Which of them it is, is a condition on the chunk, the tables, and the statement at which the
database fails, if any: `Chunk.GetsIn` for the statements up to the insert of the logs,
`Chunk.Commits` for all of them.
-/

namespace UsdpIndexer

open Text
open KeyedTable hiding Unique

/-! ## Failing statements -/

/-- The database fails at this statement. -/
def FaultAt (fault : Option (PersistStatement × JsError)) (statement : PersistStatement) : Prop :=
  fault.map Prod.fst = some statement

instance (fault : Option (PersistStatement × JsError)) (statement : PersistStatement) :
    Decidable (FaultAt fault statement) :=
  inferInstanceAs (Decidable (_ = _))

section Statements

variable {fault : Option (PersistStatement × JsError)} {statement : PersistStatement}
  {db : Database} {counters : IngestionCounters}

theorem failAt_eq_ok_iff {db' : Database} {counters' : IngestionCounters} {u : PUnit} :
    failAt fault statement db counters = .ok (u, db', counters')
      ↔ ¬ FaultAt fault statement ∧ db' = db ∧ counters' = counters := by
  unfold failAt FaultAt
  cases fault with
  | none =>
      refine Transaction.pure_eq_ok.trans ?_
      simp
  | some failing =>
      simp only [Option.map_some, Option.some.injEq]
      by_cases same : failing.1 = statement
      · rw [if_pos same]
        constructor
        · intro passed; cases passed
        · rintro ⟨other, -⟩; exact absurd same other
      · rw [if_neg same]
        refine Transaction.pure_eq_ok.trans ?_
        simp [same]

/-- Peel off a possible fault. -/
theorem failAt_bind_eq_ok {A : Type} {rest : PUnit → ChunkTransaction A}
    {a : A × Database × IngestionCounters} :
    (failAt fault statement >>= rest) db counters = .ok a
      ↔ ¬ FaultAt fault statement ∧ rest ⟨⟩ db counters = .ok a := by
  obtain ⟨a, db', counters'⟩ := a
  rw [Transaction.bind_eq_ok]
  constructor
  · rintro ⟨u, d, m, passed, run⟩
    obtain ⟨runs, rfl, rfl⟩ := failAt_eq_ok_iff.mp passed
    exact ⟨runs, run⟩
  · rintro ⟨passed, run⟩
    exact ⟨⟨⟩, db, counters, failAt_eq_ok_iff.mpr ⟨passed, rfl, rfl⟩, run⟩

theorem keepsMemory_failAt : (failAt fault statement).KeepsMemory := by
  unfold failAt
  split
  · split
    · exact Transaction.keepsMemory_fail _
    · exact Transaction.keepsMemory_pure _
  · exact Transaction.keepsMemory_pure _

end Statements

/-! ## The logs get in -/

/-- The blocks of a chunk get in. -/
@[mk_iff] structure BlocksGetIn (fault : Option (PersistStatement × JsError)) (chainId : ℕ)
    (blocks : List StoredBlock) (db : Database) : Prop where
  selected : ¬ FaultAt fault .selectBlocks
  kept : findHashDrift db chainId (uniqueBlocks blocks) = none
  inserted : ¬ FaultAt fault .insertBlocks
  hashes : ∀ row ∈ blockRows chainId blocks, isHex 64 row.hash
  distinct :
    ((insertNew BlockRow.key db.blocks (blockRows chainId blocks)).map BlockRow.hashKey).Nodup

instance (fault : Option (PersistStatement × JsError)) (chainId : ℕ) (blocks : List StoredBlock)
    (db : Database) : Decidable (BlocksGetIn fault chainId blocks db) :=
  decidable_of_iff' _ (blocksGetIn_iff fault chainId blocks db)

theorem insertBlockRows_eq_ok_iff {chainId : ℕ} {blocks : List StoredBlock} {db db' : Database}
    {u : PUnit} :
    insertBlockRows chainId (uniqueBlocks blocks) db = .ok (u, db')
      ↔ (∀ row ∈ blockRows chainId blocks, isHex 64 row.hash) ∧
        ((insertNew BlockRow.key db.blocks (blockRows chainId blocks)).map
          BlockRow.hashKey).Nodup ∧
        db' = { db with
          blocks := insertNew BlockRow.key db.blocks (blockRows chainId blocks) } := by
  unfold insertBlockRows
  simp only
  rw [← blockRows]
  split
  · rename_i malformed
    constructor
    · intro inserted; cases inserted
    · rintro ⟨hashes, -⟩; exact absurd (List.all_eq_true.mpr hashes) malformed
  · rename_i hashes
    rw [not_not, List.all_eq_true] at hashes
    split
    · rename_i taken
      constructor
      · intro inserted; cases inserted
      · rintro ⟨-, distinct, -⟩; exact absurd distinct taken
    · rename_i distinct
      rw [not_not] at distinct
      constructor
      · intro inserted
        cases inserted
        exact ⟨hashes, distinct, rfl⟩
      · rintro ⟨-, -, rfl⟩
        rfl

theorem insertBlocks_eq_ok_iff {fault : Option (PersistStatement × JsError)} {chainId : ℕ}
    {blocks : List StoredBlock} {db db' : Database} {counters counters' : IngestionCounters}
    {u : PUnit} :
    insertBlocks fault chainId blocks db counters = .ok (u, db', counters')
      ↔ (blocks = [] ∨ BlocksGetIn fault chainId blocks db) ∧ counters' = counters ∧
        db' = { db with
          blocks := insertNew BlockRow.key db.blocks (blockRows chainId blocks) } := by
  refine ⟨fun passed => ⟨?_, insertBlocks_eq_ok passed⟩, ?_⟩
  · unfold insertBlocks at passed
    split at passed
    · exact .inl ‹_›
    · rw [failAt_bind_eq_ok, Transaction.statement_bind_eq_ok] at passed
      obtain ⟨selected, _, d, drift, passed⟩ := passed
      rw [failAt_bind_eq_ok, Transaction.statement_eq_ok] at passed
      obtain ⟨inserted, passed, -⟩ := passed
      split at drift
      · cases drift
      · rename_i kept
        cases drift
        obtain ⟨hashes, distinct, -⟩ := insertBlockRows_eq_ok_iff.mp passed
        exact .inr ⟨selected, kept, inserted, hashes, distinct⟩
  · rintro ⟨getIn, rfl, rfl⟩
    unfold insertBlocks
    split
    · rename_i empty
      refine Transaction.pure_eq_ok.mpr ⟨rfl, ?_, rfl⟩
      simp [insertNew, blockRows, uniqueBlocks, upsertAll, empty]
    · rename_i nonempty
      have getIn := getIn.resolve_left nonempty
      rw [failAt_bind_eq_ok, Transaction.statement_bind_eq_ok]
      refine ⟨getIn.selected, ⟨⟩, db, by rw [getIn.kept], ?_⟩
      rw [failAt_bind_eq_ok, Transaction.statement_eq_ok]
      exact ⟨getIn.inserted, insertBlockRows_eq_ok_iff.mpr ⟨getIn.hashes, getIn.distinct, rfl⟩, rfl⟩

/-- The tables with the new logs of a chunk in place. -/
def addRawLogs (chainId runId : ℕ) (logs : List MinedLog) (db : Database) : Database :=
  { db with
    rawLogs := db.rawLogs ++ newRawLogs chainId runId logs db
    rawLogSequence := db.rawLogSequence + logs.length }

theorem insertRawLogs_eq_ok_iff {chainId runId : ℕ} {logs : List MinedLog} {db db' : Database}
    {inserted : List RawLogRow} :
    insertRawLogs chainId runId logs db = .ok (inserted, db')
      ↔ (∀ log ∈ logs, isHex 40 (toLowerCase log.address)) ∧
        (∀ row ∈ newRawLogs chainId runId logs db,
          (row.chainId, row.blockNumber) ∈ db.blocks.map BlockRow.key) ∧
        inserted = newRawLogs chainId runId logs db ∧ db' = addRawLogs chainId runId logs db := by
  unfold insertRawLogs
  simp only
  split
  · rename_i malformed
    constructor
    · intro passed; cases passed
    · rintro ⟨addresses, -⟩; exact absurd (List.all_eq_true.mpr addresses) malformed
  · rename_i addresses
    rw [not_not, List.all_eq_true] at addresses
    split
    · rename_i dangling
      constructor
      · intro passed; cases passed
      · rintro ⟨-, anchored, -⟩
        exact absurd (List.all_eq_true.mpr fun row mem => decide_eq_true (anchored row mem))
          dangling
    · rename_i anchored
      rw [not_not, List.all_eq_true] at anchored
      constructor
      · intro passed
        cases passed
        exact ⟨addresses, fun row mem => of_decide_eq_true (anchored row mem), rfl, rfl⟩
      · rintro ⟨-, -, rfl, rfl⟩
        rfl

/-- The logs of a chunk are all mined and get in; a rollback may take them back. -/
@[mk_iff] structure Chunk.GetsIn (fault : Option (PersistStatement × JsError)) (chunk : Chunk)
    (db : Database) (logs : List MinedLog) : Prop where
  connected : ¬ FaultAt fault .connect
  begun : ¬ FaultAt fault .begin
  blocks : chunk.blocks ++ chunk.anchor.toList = [] ∨
    BlocksGetIn fault chunk.chainId (chunk.blocks ++ chunk.anchor.toList) db
  mined : chunk.logs.mapM Log.mined = .ok logs
  inserted : ¬ FaultAt fault .insertRawLogs
  addresses : ∀ log ∈ logs, isHex 40 (toLowerCase log.address)
  anchored : ∀ row ∈ newRawLogs chunk.chainId chunk.runId logs db,
    (row.chainId, row.blockNumber) ∈ (chunk.withBlocks db).blocks.map BlockRow.key

instance (fault : Option (PersistStatement × JsError)) (chunk : Chunk) (db : Database)
    (logs : List MinedLog) : Decidable (chunk.GetsIn fault db logs) :=
  have (row : RawLogRow) : Decidable
      ((row.chainId, row.blockNumber) ∈ (chunk.withBlocks db).blocks.map BlockRow.key) :=
    decidable_of_iff ((chunk.withBlocks db).hasBlock row.chainId row.blockNumber)
      decide_eq_true_iff
  decidable_of_iff' _ (Chunk.getsIn_iff fault chunk db logs)

/-- The first part of `persistChunk`: the blocks and the logs. -/
def insertChunkLogs (fault : Option (PersistStatement × JsError)) (chunk : Chunk) :
    ChunkTransaction (List MinedLog × List RawLogRow) := do
  failAt fault .connect
  failAt fault .begin
  insertBlocks fault chunk.chainId (chunk.blocks ++ chunk.anchor.toList)
  let logs ← Transaction.compute (chunk.logs.mapM Log.mined)
  failAt fault .insertRawLogs
  let inserted ← Transaction.statement (insertRawLogs chunk.chainId chunk.runId logs)
  return (logs, inserted)

/-- **When the logs of a chunk get in.** -/
theorem insertChunkLogs_eq_ok_iff {fault : Option (PersistStatement × JsError)} {chunk : Chunk}
    {db db' : Database} {counters counters' : IngestionCounters} {logs : List MinedLog}
    {inserted : List RawLogRow} :
    insertChunkLogs fault chunk db counters = .ok ((logs, inserted), db', counters')
      ↔ chunk.GetsIn fault db logs ∧
        inserted = newRawLogs chunk.chainId chunk.runId logs db ∧
        db' = addRawLogs chunk.chainId chunk.runId logs (chunk.withBlocks db) ∧
        counters' = counters := by
  unfold insertChunkLogs
  rw [failAt_bind_eq_ok, failAt_bind_eq_ok, Transaction.bind_eq_ok]
  constructor
  · rintro ⟨connected, begun, _, d, m, blocks, run⟩
    obtain ⟨getIn, rfl, rfl⟩ := insertBlocks_eq_ok_iff.mp blocks
    rw [Transaction.compute_bind_eq_ok] at run
    obtain ⟨mined, isMined, run⟩ := run
    rw [failAt_bind_eq_ok, Transaction.statement_bind_eq_ok] at run
    obtain ⟨notFailing, rows, d, insert, run⟩ := run
    obtain ⟨addresses, anchored, rfl, rfl⟩ := insertRawLogs_eq_ok_iff.mp insert
    obtain ⟨pair, rfl, rfl⟩ := Transaction.pure_eq_ok.mp run
    cases pair
    exact ⟨⟨connected, begun, getIn, isMined, notFailing, addresses, anchored⟩, rfl, rfl, rfl⟩
  · rintro ⟨getsIn, rfl, rfl, rfl⟩
    refine ⟨getsIn.connected, getsIn.begun, ⟨⟩, chunk.withBlocks db, _,
      insertBlocks_eq_ok_iff.mpr ⟨getsIn.blocks, rfl, rfl⟩, ?_⟩
    rw [Transaction.compute_bind_eq_ok]
    refine ⟨logs, getsIn.mined, ?_⟩
    rw [failAt_bind_eq_ok, Transaction.statement_bind_eq_ok]
    exact ⟨getsIn.inserted, _, _,
      insertRawLogs_eq_ok_iff.mpr ⟨getsIn.addresses, getsIn.anchored, rfl, rfl⟩,
      Transaction.pure_eq_ok.mpr ⟨rfl, rfl, rfl⟩⟩

theorem keepsMemory_insertChunkLogs (fault : Option (PersistStatement × JsError)) (chunk : Chunk) :
    (insertChunkLogs fault chunk).KeepsMemory := by
  have blocks : (insertBlocks fault chunk.chainId
      (chunk.blocks ++ chunk.anchor.toList)).KeepsMemory := by
    unfold insertBlocks
    split
    · exact Transaction.keepsMemory_pure _
    · exact keepsMemory_failAt.bind fun _ => (Transaction.keepsMemory_statement _).bind fun _ =>
        keepsMemory_failAt.bind fun _ => Transaction.keepsMemory_statement _
  exact keepsMemory_failAt.bind fun _ => keepsMemory_failAt.bind fun _ => blocks.bind fun _ =>
    (Transaction.keepsMemory_compute _).bind fun _ => keepsMemory_failAt.bind fun _ =>
    (Transaction.keepsMemory_statement _).bind fun _ => Transaction.keepsMemory_pure _

/-! ## The chunk commits -/

/-- The events of the logs of a chunk that are new. -/
def Chunk.decoded (viem : Viem) (chunk : Chunk) (db : Database) (logs : List MinedLog) :
    List ProtocolEventRow × ℕ :=
  decodeInserted viem chunk.chainId (newRawLogs chunk.chainId chunk.runId logs db) logs

/-- The chunk commits. -/
@[mk_iff] structure Chunk.Commits (viem : Viem) (fault : Option (PersistStatement × JsError))
    (chunk : Chunk) (db : Database) (logs : List MinedLog) : Prop where
  getsIn : chunk.GetsIn fault db logs
  events : (chunk.decoded viem db logs).1 = [] ∨ ¬ FaultAt fault .insertProtocolEvents
  covered : ¬ FaultAt fault .insertCoverage
  range : chunk.range.fromBlock ≤ chunk.range.toBlock
  checkpointed : ¬ FaultAt fault .upsertCheckpoint
  committed : ¬ FaultAt fault .commit

instance (viem : Viem) (fault : Option (PersistStatement × JsError)) (chunk : Chunk)
    (db : Database) (logs : List MinedLog) : Decidable (chunk.Commits viem fault db logs) :=
  decidable_of_iff' _ (Chunk.commits_iff viem fault chunk db logs)

/-- What is said of the mined logs of a chunk can be tried on them. -/
theorem Chunk.exists_mined {chunk : Chunk} {P : List MinedLog → Prop}
    (mined : ∀ logs, P logs → chunk.logs.mapM Log.mined = .ok logs) :
    (∃ logs, P logs) ↔ ∃ logs ∈ (chunk.logs.mapM Log.mined).toOption, P logs := by
  constructor
  · rintro ⟨logs, holds⟩
    exact ⟨logs, by rw [mined logs holds]; rfl, holds⟩
  · rintro ⟨logs, -, holds⟩
    exact ⟨logs, holds⟩

instance (viem : Viem) (fault : Option (PersistStatement × JsError)) (chunk : Chunk)
    (db : Database) : Decidable (∃ logs, chunk.Commits viem fault db logs) :=
  decidable_of_iff' _ (Chunk.exists_mined fun _ commits => commits.getsIn.mined)

instance (viem : Viem) (fault : Option (PersistStatement × JsError)) (chunk : Chunk)
    (db : Database) (P : List MinedLog → Prop) [DecidablePred P] :
    Decidable (∀ logs, chunk.Commits viem fault db logs → P logs) :=
  decidable_of_iff
    (∀ logs ∈ (chunk.logs.mapM Log.mined).toOption, chunk.Commits viem fault db logs → P logs)
    ⟨fun all logs commits => all logs (by rw [commits.getsIn.mined]; rfl) commits,
      fun all logs _ => all logs⟩

/-- The last part of `persistChunk`: coverage and checkpoint. -/
def finishChunk (fault : Option (PersistStatement × JsError)) (chunk : Chunk) :
    ChunkTransaction PUnit := do
  failAt fault .insertCoverage
  Transaction.statement (insertCoverage chunk.chainId chunk.scope chunk.runId chunk.range)
  failAt fault .upsertCheckpoint
  Transaction.statement fun db =>
    .ok (⟨⟩, upsertCheckpoint chunk.chainId chunk.scope chunk.range chunk.anchor db)
  failAt fault .commit

/-- What is counted once the logs are in. -/
def countLogs (logs : List MinedLog) (inserted : List RawLogRow) (decodeFailures : ℕ)
    (counters : IngestionCounters) : IngestionCounters :=
  { counters with
    rawLogsInserted := counters.rawLogsInserted + inserted.length
    duplicateRawLogs := counters.duplicateRawLogs + (logs.length - inserted.length)
    decodeFailures := counters.decodeFailures + decodeFailures }

/-- What is counted once the events are in. -/
def countEvents (events : List ProtocolEventRow) (counters : IngestionCounters) :
    IngestionCounters :=
  { counters with eventsDecoded := counters.eventsDecoded + events.length }

/-- The second part of `persistChunk`: what is counted, and the events. -/
def recordChunk (viem : Viem) (fault : Option (PersistStatement × JsError)) (chunk : Chunk)
    (inserted : List MinedLog × List RawLogRow) : ChunkTransaction PUnit := do
  let decoded := decodeInserted viem chunk.chainId inserted.2 inserted.1
  Transaction.assign (countLogs inserted.1 inserted.2 decoded.2)
  insertProtocolEvents fault decoded.1
  Transaction.assign (countEvents decoded.1)
  finishChunk fault chunk

/-- `persistChunk` in its parts. -/
theorem persistChunkBody_eq (viem : Viem) (fault : Option (PersistStatement × JsError))
    (chunk : Chunk) :
    persistChunkBody viem fault chunk
      = insertChunkLogs fault chunk >>= recordChunk viem fault chunk := by
  simp only [persistChunkBody, insertChunkLogs, bind_assoc, pure_bind]
  rfl

section Parts

variable {viem : Viem} {fault : Option (PersistStatement × JsError)} {chunk : Chunk}
  {db db' : Database} {counters counters' : IngestionCounters} {logs : List MinedLog}

theorem insertProtocolEvents_eq_ok_iff {events : List ProtocolEventRow} {u : PUnit} :
    insertProtocolEvents fault events db counters = .ok (u, db', counters')
      ↔ (events = [] ∨ ¬ FaultAt fault .insertProtocolEvents) ∧ counters' = counters ∧
        db' = addProtocolEvents events db := by
  refine ⟨fun passed => ⟨?_, insertProtocolEvents_eq_ok passed⟩, ?_⟩
  · unfold insertProtocolEvents at passed
    split at passed
    · exact .inl ‹_›
    · exact .inr (failAt_bind_eq_ok.mp passed).1
  · rintro ⟨runs, rfl, rfl⟩
    unfold insertProtocolEvents
    split
    · rename_i empty
      refine Transaction.pure_eq_ok.mpr ⟨rfl, ?_, rfl⟩
      simp [addProtocolEvents, insertNew, empty]
    · rename_i nonempty
      exact failAt_bind_eq_ok.mpr ⟨runs.resolve_left nonempty,
        Transaction.statement_eq_ok.mpr ⟨rfl, rfl⟩⟩

theorem keepsMemory_insertProtocolEvents (events : List ProtocolEventRow) :
    (insertProtocolEvents fault events).KeepsMemory := by
  unfold insertProtocolEvents
  split
  · exact Transaction.keepsMemory_pure _
  · exact keepsMemory_failAt.bind fun _ => Transaction.keepsMemory_statement _

theorem insertCoverage_eq_ok_iff {u : PUnit} :
    insertCoverage chunk.chainId chunk.scope chunk.runId chunk.range db = .ok (u, db')
      ↔ chunk.range.fromBlock ≤ chunk.range.toBlock ∧
        db' = addCoverage chunk.chainId chunk.scope chunk.runId chunk.range db := by
  unfold insertCoverage
  split
  · rename_i empty
    constructor
    · intro passed; cases passed
    · rintro ⟨nonempty, -⟩; omega
  · rename_i nonempty
    constructor
    · intro passed
      cases passed
      exact ⟨not_lt.mp nonempty, rfl⟩
    · rintro ⟨-, rfl⟩
      rfl

theorem finishChunk_eq_ok_iff {u : PUnit} :
    finishChunk fault chunk db counters = .ok (u, db', counters')
      ↔ ¬ FaultAt fault .insertCoverage ∧ chunk.range.fromBlock ≤ chunk.range.toBlock ∧
        ¬ FaultAt fault .upsertCheckpoint ∧ ¬ FaultAt fault .commit ∧
        db' = upsertCheckpoint chunk.chainId chunk.scope chunk.range chunk.anchor
          (addCoverage chunk.chainId chunk.scope chunk.runId chunk.range db) ∧
        counters' = counters := by
  unfold finishChunk
  rw [failAt_bind_eq_ok, Transaction.statement_bind_eq_ok]
  constructor
  · rintro ⟨covered, _, d, coverage, run⟩
    obtain ⟨range, rfl⟩ := insertCoverage_eq_ok_iff.mp coverage
    rw [failAt_bind_eq_ok, Transaction.statement_bind_eq_ok] at run
    obtain ⟨checkpointed, _, d, checkpoint, run⟩ := run
    obtain ⟨committed, rfl, rfl⟩ := failAt_eq_ok_iff.mp run
    cases checkpoint
    exact ⟨covered, range, checkpointed, committed, rfl, rfl⟩
  · rintro ⟨covered, range, checkpointed, committed, rfl, rfl⟩
    refine ⟨covered, ⟨⟩, _, insertCoverage_eq_ok_iff.mpr ⟨range, rfl⟩, ?_⟩
    rw [failAt_bind_eq_ok, Transaction.statement_bind_eq_ok]
    exact ⟨checkpointed, ⟨⟩, _, rfl, failAt_eq_ok_iff.mpr ⟨committed, rfl, rfl⟩⟩

theorem keepsMemory_finishChunk : (finishChunk fault chunk).KeepsMemory :=
  keepsMemory_failAt.bind fun _ => (Transaction.keepsMemory_statement _).bind fun _ =>
    keepsMemory_failAt.bind fun _ => (Transaction.keepsMemory_statement _).bind fun _ =>
    keepsMemory_failAt

/-- **A chunk that commits**, with its tables and its counts. -/
theorem persistChunk_of_commits (commits : chunk.Commits viem fault db logs) :
    persistChunk viem fault chunk db counters
      = ⟨writeChunk viem chunk logs (chunk.withBlocks db),
        countEvents (chunk.decoded viem db logs).1
          (countLogs logs (newRawLogs chunk.chainId chunk.runId logs db)
            (chunk.decoded viem db logs).2 counters), .ok ⟨⟩⟩ := by
  refine Transaction.exec_of_eq_ok ?_
  rw [persistChunkBody_eq, Transaction.bind_eq_ok]
  refine ⟨(logs, _), _, _, insertChunkLogs_eq_ok_iff.mpr ⟨commits.getsIn, rfl, rfl, rfl⟩, ?_⟩
  rw [recordChunk, Transaction.assign_bind, Transaction.bind_eq_ok]
  refine ⟨⟨⟩, _, _, insertProtocolEvents_eq_ok_iff.mpr ⟨commits.events, rfl, rfl⟩, ?_⟩
  rw [Transaction.assign_bind]
  exact finishChunk_eq_ok_iff.mpr ⟨commits.covered, commits.range, commits.checkpointed,
    commits.committed, rfl, rfl⟩

/-- **When a chunk commits.** -/
theorem persistChunk_result_ok_iff :
    (persistChunk viem fault chunk db counters).result = .ok ⟨⟩
      ↔ ∃ logs, chunk.Commits viem fault db logs := by
  constructor
  · intro committed
    rw [persistChunk, persistChunkBody_eq, Transaction.exec_result_ok_iff] at committed
    obtain ⟨_, _, run⟩ := committed
    rw [Transaction.bind_eq_ok] at run
    obtain ⟨⟨logs, inserted⟩, d, m, insert, run⟩ := run
    obtain ⟨getsIn, rfl, rfl, rfl⟩ := insertChunkLogs_eq_ok_iff.mp insert
    rw [recordChunk, Transaction.assign_bind, Transaction.bind_eq_ok] at run
    obtain ⟨_, d, m, events, run⟩ := run
    obtain ⟨recorded, rfl, rfl⟩ := insertProtocolEvents_eq_ok_iff.mp events
    rw [Transaction.assign_bind] at run
    obtain ⟨covered, range, checkpointed, committed, -⟩ := finishChunk_eq_ok_iff.mp run
    exact ⟨logs, getsIn, recorded, covered, range, checkpointed, committed⟩
  · rintro ⟨logs, commits⟩
    rw [persistChunk_of_commits commits]

/-! ## What is counted -/

/-- Nothing is counted of a chunk whose logs do not get in. -/
theorem memory_persistChunk_of_rejected (rejected : ¬ ∃ logs, chunk.GetsIn fault db logs) :
    (persistChunk viem fault chunk db counters).memory = counters := by
  rw [persistChunk, persistChunkBody_eq]
  rcases Transaction.exec_memory_bind (insertChunkLogs fault chunk) (recordChunk viem fault chunk)
    db counters with ⟨-, memory⟩ | ⟨⟨logs, inserted⟩, d, m, insert, -⟩
  · rw [memory]
    exact keepsMemory_insertChunkLogs fault chunk db counters
  · exact absurd ⟨logs, (insertChunkLogs_eq_ok_iff.mp insert).1⟩ rejected

theorem memory_recordChunk {inserted : List RawLogRow} :
    ∃ events, ((recordChunk viem fault chunk (logs, inserted)).exec db counters).memory
        = countEvents events
          (countLogs logs inserted (decodeInserted viem chunk.chainId inserted logs).2 counters) ∧
      (events = [] ∨ events = (decodeInserted viem chunk.chainId inserted logs).1) := by
  rcases Transaction.exec_memory_bind
    (insertProtocolEvents fault (decodeInserted viem chunk.chainId inserted logs).1)
    (fun _ => Transaction.assign (countEvents (decodeInserted viem chunk.chainId inserted logs).1)
      >>= fun _ => finishChunk fault chunk) db
    (countLogs logs inserted (decodeInserted viem chunk.chainId inserted logs).2 counters)
    with ⟨-, memory⟩ | ⟨_, d, m, passed, memory⟩
  · exact ⟨[], memory.trans (keepsMemory_insertProtocolEvents _ _ _), .inl rfl⟩
  · refine ⟨_, memory.trans ?_, .inr rfl⟩
    rw [Transaction.KeepsMemory.exec_assign_bind keepsMemory_finishChunk,
      (keepsMemory_insertProtocolEvents _).of_eq_ok passed]

/-- **Of a chunk whose logs get in, the logs are counted**, and the events if it comes to them,
also if it is rolled back. -/
theorem memory_persistChunk_of_getsIn (getsIn : chunk.GetsIn fault db logs) :
    ∃ events, (persistChunk viem fault chunk db counters).memory
        = countEvents events (countLogs logs (newRawLogs chunk.chainId chunk.runId logs db)
          (chunk.decoded viem db logs).2 counters) ∧
      (events = [] ∨ events = (chunk.decoded viem db logs).1) := by
  obtain ⟨events, counted, either⟩ := @memory_recordChunk viem fault chunk
    (addRawLogs chunk.chainId chunk.runId logs (chunk.withBlocks db)) counters logs
    (newRawLogs chunk.chainId chunk.runId logs db)
  refine ⟨events, ?_, either⟩
  rw [← Chunk.decoded] at counted
  rw [← counted, persistChunk, persistChunkBody_eq]
  have insert : insertChunkLogs fault chunk db counters = _ :=
    insertChunkLogs_eq_ok_iff.mpr ⟨getsIn, rfl, rfl, rfl⟩
  rcases Transaction.exec_memory_bind (insertChunkLogs fault chunk) (recordChunk viem fault chunk)
    db counters with ⟨⟨error, failed⟩, -⟩ | ⟨_, d, m, passed, memory⟩
  · rw [Transaction.exec_of_eq_ok insert] at failed
    cases failed
  · rw [insert] at passed
    cases passed
    exact memory

end Parts

/-! ## What is added -/

section Growth

variable {viem : Viem} {chunk : Chunk} {db : Database} {logs : List MinedLog}

/-- A log decodes. -/
def MinedLog.Decodes (viem : Viem) (chainId : ℕ) (log : MinedLog) : Prop :=
  (decodeProtocolLog viem chainId log.address log.data log.topics).isSome

instance (viem : Viem) (chainId : ℕ) (log : MinedLog) : Decidable (log.Decodes viem chainId) :=
  inferInstanceAs (Decidable (_ = true))

/-- Of the copies of a log that is not stored yet, at most one decodes. -/
def Chunk.DecodesOnce (viem : Viem) (chunk : Chunk) (db : Database) (logs : List MinedLog) :
    Prop :=
  ((logs.filter fun log => log.key chunk.chainId ∉ db.rawLogs.map RawLogRow.key ∧
    log.Decodes viem chunk.chainId).map (MinedLog.key chunk.chainId)).Nodup

instance (viem : Viem) (chunk : Chunk) (db : Database) (logs : List MinedLog) :
    Decidable (chunk.DecodesOnce viem db logs) :=
  inferInstanceAs (Decidable (List.Nodup _))

/-- The loop finds a new row by its key. -/
theorem insertedRow_eq_lookup (log : MinedLog) :
    insertedRow (newRawLogs chunk.chainId chunk.runId logs db) log
      = lookup RawLogRow.key (newRawLogs chunk.chainId chunk.runId logs db)
          (log.key chunk.chainId) := by
  refine List.find?_congr fun row mem => decide_eq_decide.mpr ?_
  obtain ⟨chain, other, -, stores⟩ := exists_stored_of_mem_newRawLogs mem
  have lower : toLowerCase row.transactionHash = row.transactionHash := by
    rw [stores]
    exact toLowerCase_toLowerCase _
  rw [lower, RawLogRow.key, MinedLog.key, Prod.mk.injEq, Prod.mk.injEq, and_iff_right chain]

theorem map_rawLogId_decodeInserted (inserted : List RawLogRow) :
    (decodeInserted viem chunk.chainId inserted logs).1.map ProtocolEventRow.rawLogId
      = (logs.filter fun log => log.Decodes viem chunk.chainId).filterMap fun log =>
          (insertedRow inserted log).map RawLogRow.id := by
  induction logs with
  | nil => rfl
  | cons log logs ih =>
      rw [decodeInserted]
      cases decodes : decodeProtocolLog viem chunk.chainId log.address log.data log.topics with
      | none =>
          rw [List.filter_cons_of_neg (by simp [MinedLog.Decodes, decodes]), ← ih]
          cases insertedRow inserted log <;> rfl
      | some decoded =>
          rw [List.filter_cons_of_pos (by simp [MinedLog.Decodes, decodes])]
          cases found : insertedRow inserted log with
          | none =>
              rw [List.filterMap_cons_none (by rw [found]; rfl)]
              exact ih
          | some row =>
              rw [List.filterMap_cons_some (by rw [found]; rfl), ← ih]
              rfl

/-- The logs that are found are those that were not stored before. -/
theorem key_mem_newRawLogs_iff {log : MinedLog} (mem : log ∈ logs) :
    log.key chunk.chainId ∈ (newRawLogs chunk.chainId chunk.runId logs db).map RawLogRow.key
      ↔ log.key chunk.chainId ∉ db.rawLogs.map RawLogRow.key := by
  rw [newRawLogs, key_mem_fresh]
  refine and_iff_right ?_
  obtain ⟨n, hn⟩ := exists_mem_rawLogRows chunk.chainId chunk.runId logs db.rawLogSequence mem
  exact List.mem_map.mpr ⟨_, hn, rfl⟩

/-- **The events of a chunk all go in exactly if no new log decodes twice.**  The numbers of new
logs are new. -/
theorem length_fresh_decoded_iff
    (numbered : ∀ event ∈ db.protocolEvents, event.rawLogId < db.rawLogSequence) :
    (fresh ProtocolEventRow.rawLogId db.protocolEvents (chunk.decoded viem db logs).1).length
        = (chunk.decoded viem db logs).1.length
      ↔ chunk.DecodesOnce viem db logs := by
  rw [length_fresh_eq_iff, and_iff_left]
  · rw [Chunk.decoded, map_rawLogId_decodeInserted]
    simp only [insertedRow_eq_lookup]
    rw [nodup_filterMap_lookup RawLogRow.key nodup_id_newRawLogs, List.filter_filter,
      Chunk.DecodesOnce]
    rw [List.filter_congr fun log mem => ?_]
    rw [← Bool.decide_and]
    exact decide_eq_decide.mpr (and_congr_left fun _ => key_mem_newRawLogs_iff mem)
  · intro event mem stored
    obtain ⟨old, hold, same⟩ := List.mem_map.mp stored
    obtain ⟨log, -, row, found, decoded, -, rfl⟩ := mem_decodeInserted.mp mem
    have new := (exists_log_of_mem_newRawLogs (insertedRow_eq_some found).1).1
    have before := numbered old hold
    change old.rawLogId = row.id at same
    omega

end Growth

end UsdpIndexer
