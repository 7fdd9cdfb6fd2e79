import UsdpIndexer.Analytics.CoverageReuse
import UsdpIndexer.Indexer.ChainEvents
import UsdpIndexer.Indexer.Resume

/-!
# An index that holds what its chains have

What the analytics rely on when `verifyCoverage` calls a range complete: that every block of
it is covered, and that a covered range has all the logs of the chain.  `Indexes` is the
invariant behind both.  Every chunk keeps it, whether it commits or rolls back, and so does
everything else that the program does to the index.
-/

namespace UsdpIndexer

/-- The tables belong to the chains, and no coverage row is empty. -/
structure Indexes (viem : Viem) (chains : ℕ → ChainLogs) (watched : Lane → List String)
    (db : Database) : Prop where
  store : StoreInvariant viem chains watched db
  valid : db.CoverageValid

/-- What is promised of a chunk: it holds the logs that the chain has for its lane. -/
def Chunk.Exact (chains : ℕ → ChainLogs) (watched : Lane → List String) (chunk : Chunk) : Prop :=
  UsdpIndexer.Exact (chains chunk.chainId) (watched ⟨chunk.chainId, chunk.scope⟩) chunk.range
    chunk.logs

variable {viem : Viem} {chains : ℕ → ChainLogs} {watched : Lane → List String} {db : Database}

theorem Indexes.empty : Indexes viem chains watched .empty where
  store := .empty viem chains watched
  valid := fun _ mem => nomatch mem

/-- Blocks, checkpoints and runs are no part of it. -/
theorem Indexes.of_eq (indexes : Indexes viem chains watched db) (db' : Database)
    (rawLogs : db'.rawLogs = db.rawLogs) (sequence : db'.rawLogSequence = db.rawLogSequence)
    (events : db'.protocolEvents = db.protocolEvents) (coverage : db'.coverage = db.coverage) :
    Indexes viem chains watched db' where
  store := indexes.store.of_eq db' rawLogs sequence events coverage
  valid := by
    intro row mem
    rw [coverage] at mem
    exact indexes.valid row mem

/-- **A chunk keeps the index**, committed or not. -/
theorem Indexes.persistChunk (indexes : Indexes viem chains watched db) {chunk : Chunk}
    (fetched : chunk.Exact chains watched) (fault : Option (PersistStatement × JsError))
    (counters : IngestionCounters) :
    Indexes viem chains watched (persistChunk viem fault chunk db counters).database := by
  cases commit : (UsdpIndexer.persistChunk viem fault chunk db counters).result with
  | error error =>
      rw [persistChunk_rolledBack commit]
      exact indexes
  | ok _ =>
      obtain ⟨logs, mined, nonempty, -, written⟩ := persistChunk_committed commit
      have logs_iff (log : MinedLog) : log ∈ logs ↔ _ :=
        (FailingFold.mem_of_mapM_eq_ok mined log).trans (fetched.mem_iff log)
      have chunkLogs : ChunkLogs chains watched chunk logs :=
        { has := fun log mem => ((logs_iff log).mp mem).1
          complete := fun log has watches lower upper =>
            (logs_iff log).mpr ⟨has, watches, lower, upper⟩ }
      have withBlocks := indexes.of_eq (chunk.withBlocks db) rfl rfl rfl rfl
      rw [written]
      exact ⟨withBlocks.store.writeChunk chunkLogs,
        coverage_valid_writeChunk viem logs nonempty withBlocks.valid⟩

/-- A chunk with the one log of its chain. -/
theorem exact_singleChunk (chunk : Chunk) {log : MinedLog} {watched : Lane → List String}
    (logs : chunk.logs = [log.toLog]) (mined : log.toLog.mined = .ok log)
    (watches : Watches (watched ⟨chunk.chainId, chunk.scope⟩) log.address)
    (inside : chunk.range.fromBlock ≤ log.blockNumber ∧ log.blockNumber ≤ chunk.range.toBlock) :
    chunk.Exact (fun _ => .single log) watched := by
  unfold Chunk.Exact
  rw [logs]
  refine ⟨fun raw mem => ⟨log, ?_⟩, fun other => ⟨?_, ?_⟩⟩
  · rw [List.mem_singleton.mp mem]
    exact mined
  · rintro ⟨raw, mem, same⟩
    rw [List.mem_singleton.mp mem, mined, Except.ok.injEq] at same
    subst same
    exact ⟨rfl, watches, inside⟩
  · rintro ⟨rfl, -⟩
    exact ⟨_, List.mem_singleton_self _, mined⟩

/-- **A complete report means that every block is covered**, and the other way around. -/
theorem Database.CoverageValid.verified_iff (valid : db.CoverageValid) {scope : String}
    {fromBlock toBlock : ℤ} (ordered : fromBlock ≤ toBlock) (chainId : ℕ) :
    (∃ coverage, verifyCoverage db scope fromBlock toBlock chainId = .ok coverage ∧
      coverage.complete = true)
      ↔ ∀ block, fromBlock ≤ block → block ≤ toBlock → db.CoveredFor ⟨chainId, scope⟩ block := by
  have ranges : ∀ range ∈ db.coverageRanges chainId scope, range.fromBlock ≤ range.toBlock := by
    intro range mem
    obtain ⟨row, hrow, rfl⟩ := List.mem_map.mp mem
    exact valid row (List.mem_filter.mp hrow).1
  have nothing := coverageGaps_eq_nil_iff ranges ordered
  refine Iff.trans ?_ nothing
  rw [verifyCoverage_eq ranges]
  cases coverageGaps (db.coverageRanges chainId scope) fromBlock toBlock with
  | error e => simp [Except.map]
  | ok gaps => simp [Except.map]

theorem Indexes.covered_of_complete (indexes : Indexes viem chains watched db) {scope : String}
    {fromBlock toBlock : ℤ} {chainId : ℕ} {coverage : CoverageReport}
    (verified : verifyCoverage db scope fromBlock toBlock chainId = .ok coverage)
    (complete : coverage.complete = true) (block : ℤ) (lower : fromBlock ≤ block)
    (upper : block ≤ toBlock) : db.CoveredFor ⟨chainId, scope⟩ block :=
  (indexes.valid.verified_iff (lower.trans upper) chainId).mp ⟨coverage, verified, complete⟩
    block lower upper

end UsdpIndexer
