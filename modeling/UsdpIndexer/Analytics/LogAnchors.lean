import UsdpIndexer.Analytics.AnalyticsSystem

/-!
# Logs and the blocks they name

A log row carries the hash of its block as the log provider has it, and the blocks table
the hash that some block provider has given first.  The writers of blocks compare their
block with the stored one; nothing compares a log with either.  So the logs name the
stored hashes exactly as long as the logs of every chunk do (`logsAnchored_iff`).
-/

namespace UsdpIndexer

open Text KeyedTable

/-- Every log names the hash that is stored for its block. -/
def Database.LogsAnchored (db : Database) : Prop :=
  ∀ log ∈ db.rawLogs,
    (lookup BlockRow.key db.blocks (log.chainId, log.blockNumber)).map (·.hash)
      = some log.blockHash

/-- `raw_logs_block_fk` -/
def Database.LogsReferToBlocks (db : Database) : Prop :=
  ∀ log ∈ db.rawLogs, ∃ block,
    lookup BlockRow.key db.blocks (log.chainId, log.blockNumber) = some block

/-- The hash that a block has when the logs of a chunk go in: the stored one, or that of the
last block of its number in the chunk. -/
def Chunk.storedHash (chunk : Chunk) (db : Database) (number : ℤ) : Option String :=
  ((lookup BlockRow.key db.blocks (chunk.chainId, number)).map (·.hash)).or
    (((chunk.blocks ++ chunk.anchor.toList).reverse.find? (·.number = number)).map fun block =>
      toLowerCase block.hash)

/-- The logs of a chunk that are new name that hash. -/
def Chunk.LogsMatch (chunk : Chunk) (db : Database) : Prop :=
  ∀ logs, chunk.logs.mapM Log.mined = .ok logs →
    ∀ row ∈ newRawLogs chunk.chainId chunk.runId logs db,
      chunk.storedHash db row.blockNumber = some row.blockHash

/-! ## One chunk -/

theorem chainId_of_mem_rawLogRows {chainId runId : ℕ} {row : RawLogRow} (logs : List MinedLog) :
    ∀ id : ℕ, row ∈ rawLogRows chainId runId id logs → row.chainId = chainId := by
  induction logs with
  | nil => exact fun _ mem => absurd mem List.not_mem_nil
  | cons log logs ih =>
      intro id mem
      rcases List.mem_cons.mp mem with rfl | rest
      · rfl
      · exact ih (id + 1) rest

/-- The block of a chunk that is found under a number. -/
theorem lookup_chunkBlockRows (chunk : Chunk) (number : ℤ) :
    lookup BlockRow.key chunk.blockRows (chunk.chainId, number)
      = ((chunk.blocks ++ chunk.anchor.toList).reverse.find? (·.number = number)).map
        (blockRow chunk.chainId) := by
  have batch : lookup StoredBlock.number (uniqueBlocks (chunk.blocks ++ chunk.anchor.toList)) number
      = (chunk.blocks ++ chunk.anchor.toList).reverse.find? (·.number = number) := by
    rw [uniqueBlocks, lookup_upsertAll]
    exact Option.or_none
  rw [← batch, Chunk.blockRows, blockRows, lookup, List.find?_map, lookup]
  congr 2
  funext block
  show decide ((chunk.chainId, block.number) = (chunk.chainId, number)) = _
  rw [decide_eq_decide, Prod.mk.injEq, and_iff_right rfl]

/-- The hash that is stored with the blocks of a chunk in place. -/
theorem hash_withBlocks (chunk : Chunk) (db : Database) (number : ℤ) :
    (lookup BlockRow.key (chunk.withBlocks db).blocks (chunk.chainId, number)).map (·.hash)
      = chunk.storedHash db number := by
  rw [Chunk.withBlocks, lookup_insertNew, lookup_chunkBlockRows, Chunk.storedHash]
  cases lookup BlockRow.key db.blocks (chunk.chainId, number) with
  | some stored => rfl
  | none =>
      rw [Option.none_or, Option.map_none, Option.none_or, Option.map_map]
      rfl

/-- A chunk that commits leaves every log with a block. -/
theorem logsReferToBlocks_persistChunk {viem : Viem} {fault : Option (PersistStatement × JsError)}
    {chunk : Chunk} {db : Database} {counters : IngestionCounters}
    (committed : (persistChunk viem fault chunk db counters).result = .ok ⟨⟩)
    (refer : db.LogsReferToBlocks) :
    (persistChunk viem fault chunk db counters).database.LogsReferToBlocks := by
  obtain ⟨logs, -, -, inserted, written⟩ := persistChunk_committed committed
  rw [written]
  intro log mem
  rcases List.mem_append.mp mem with old | new
  · obtain ⟨block, found⟩ := refer log old
    exact ⟨block, extends_insertNew BlockRow.key db.blocks chunk.blockRows found⟩
  · show ∃ block, lookup BlockRow.key (chunk.withBlocks db).blocks _ = some block
    rw [← Option.isSome_iff_exists, Option.isSome_iff_ne_none, Ne, lookup_eq_none_iff,
      Classical.not_not]
    exact inserted log new

/-- **A chunk that commits keeps the logs anchored exactly if its logs match.** -/
theorem logsAnchored_persistChunk {viem : Viem} {fault : Option (PersistStatement × JsError)}
    {chunk : Chunk} {db : Database} {counters : IngestionCounters}
    (committed : (persistChunk viem fault chunk db counters).result = .ok ⟨⟩)
    (refer : db.LogsReferToBlocks) :
    (persistChunk viem fault chunk db counters).database.LogsAnchored
      ↔ db.LogsAnchored ∧ chunk.LogsMatch db := by
  obtain ⟨logs, mined, -, -, written⟩ := persistChunk_committed committed
  -- the old logs find the blocks that they found before
  have old {log : RawLogRow} (mem : log ∈ db.rawLogs) :
      lookup BlockRow.key (chunk.withBlocks db).blocks (log.chainId, log.blockNumber)
        = lookup BlockRow.key db.blocks (log.chainId, log.blockNumber) := by
    obtain ⟨block, found⟩ := refer log mem
    rw [found]
    exact extends_insertNew BlockRow.key db.blocks chunk.blockRows found
  have new {row : RawLogRow} (mem : row ∈ newRawLogs chunk.chainId chunk.runId logs db) :
      (lookup BlockRow.key (chunk.withBlocks db).blocks (row.chainId, row.blockNumber)).map (·.hash)
        = chunk.storedHash db row.blockNumber := by
    have chain := chainId_of_mem_rawLogRows logs db.rawLogSequence (mem_of_mem_fresh _ mem)
    rw [chain, hash_withBlocks]
  rw [written]
  constructor
  · intro anchored
    refine ⟨fun log mem => ?_, fun logs' mined' row mem => ?_⟩
    · rw [← old mem]
      exact anchored log (List.mem_append_left _ mem)
    · obtain rfl := Except.ok.inj (mined.symm.trans mined')
      rw [← new mem]
      exact anchored row (List.mem_append_right _ mem)
  · rintro ⟨anchored, matched⟩ log mem
    show (lookup BlockRow.key (chunk.withBlocks db).blocks _).map _ = _
    rcases List.mem_append.mp mem with before | inserted
    · rw [old before]
      exact anchored log before
    · rw [new inserted]
      exact matched logs mined log inserted

/-! ## Runs -/

/-- Calls that are not a chunk leave the logs and their blocks as they are. -/
theorem logs_of_effect {db db' : AnalyticsDatabase} {call : AnalyticsCall}
    (effect : Effect db call db')
    (other : ∀ fault chunk counters, call ≠ .persistChunk fault chunk counters) :
    db'.index.rawLogs = db.index.rawLogs ∧
      Extends BlockRow.key db.index.blocks db'.index.blocks := by
  cases effect with
  | indexed fault chunk counters index => exact absurd rfl (other fault chunk counters)
  | supplies _ blocks assetDeployments assetSnapshots supplyEvidence kept => exact ⟨rfl, kept⟩
  | globalSupply _ blocks assetDeployments assetSnapshots supplyEvidence row links kept =>
      exact ⟨rfl, kept⟩
  | savingsSnapshot options blocks assetSnapshots row us ss kept => exact ⟨rfl, kept⟩
  | _ => exact ⟨rfl, .refl _ _⟩

/-- Blocks that come in change nothing about the logs that have theirs. -/
theorem logsAnchored_congr {db db' : Database} (refer : db.LogsReferToBlocks)
    (logs : db'.rawLogs = db.rawLogs) (kept : Extends BlockRow.key db.blocks db'.blocks) :
    db'.LogsReferToBlocks ∧ (db'.LogsAnchored ↔ db.LogsAnchored) := by
  unfold Database.LogsReferToBlocks Database.LogsAnchored
  rw [logs]
  refine ⟨fun log mem => ?_, forall₂_congr fun log mem => ?_⟩
  · obtain ⟨block, found⟩ := refer log mem
    exact ⟨block, kept found⟩
  · obtain ⟨block, found⟩ := refer log mem
    rw [found, kept found]

/-- The chunks of a schedule that commit match the blocks that are stored with them. -/
def ChunkMatches (viem : Viem) (input : TimedCall) (db : AnalyticsDatabase) : Prop :=
  ∀ fault chunk counters, input.call = .persistChunk fault chunk counters →
    (persistChunk viem fault chunk db.index counters).result = .ok ⟨⟩ → chunk.LogsMatch db.index

/-- A step keeps the foreign key, and the anchors exactly if its chunk matches. -/
theorem logsAnchored_step {viem : Viem} {keccak256 : String → String} (input : TimedCall)
    {db : AnalyticsDatabase} (refer : db.index.LogsReferToBlocks) :
    (analyticsStep viem keccak256 input db).1.index.LogsReferToBlocks ∧
      ((analyticsStep viem keccak256 input db).1.index.LogsAnchored
        ↔ db.index.LogsAnchored ∧ ChunkMatches viem input db) := by
  by_cases isChunk : ∃ fault chunk counters, input.call = .persistChunk fault chunk counters
  · obtain ⟨fault, chunk, counters, isChunk⟩ := isChunk
    cases outcome : (persistChunk viem fault chunk db.index counters).result with
    | error error =>
        have step : (analyticsStep viem keccak256 input db).1.index = db.index := by
          rw [analyticsStep, isChunk, AnalyticsCall.perform]
          simp only [AnalyticsDatabase.wait, outcome]
          rfl
        rw [step]
        refine ⟨refer, (and_iff_left ?_).symm⟩
        intro fault' chunk' counters' same committed
        obtain ⟨rfl, rfl, rfl⟩ := AnalyticsCall.persistChunk.inj (isChunk.symm.trans same)
        rw [outcome] at committed
        cases committed
    | ok done =>
        have step : (analyticsStep viem keccak256 input db).1.index
            = (persistChunk viem fault chunk db.index counters).database := by
          rw [analyticsStep, isChunk, AnalyticsCall.perform]
          simp only [AnalyticsDatabase.wait, outcome]
          rfl
        rw [step]
        refine ⟨logsReferToBlocks_persistChunk outcome refer, ?_⟩
        rw [logsAnchored_persistChunk outcome refer]
        refine and_congr Iff.rfl ⟨fun matched fault' chunk' counters' same _ => ?_,
          fun all => all fault chunk counters isChunk outcome⟩
        obtain ⟨rfl, rfl, rfl⟩ := AnalyticsCall.persistChunk.inj (isChunk.symm.trans same)
        exact matched
  · have other : ∀ fault chunk counters, input.call ≠ .persistChunk fault chunk counters :=
      fun fault chunk counters same => isChunk ⟨fault, chunk, counters, same⟩
    have free : ChunkMatches viem input db := fun fault chunk counters same =>
      absurd same (other fault chunk counters)
    rw [and_iff_left free]
    rcases analyticsStep_effect input db with effect | idle
    · obtain ⟨logs, kept⟩ := logs_of_effect effect other
      exact logsAnchored_congr refer logs kept
    · rw [idle]
      exact ⟨refer, Iff.rfl⟩

/-- **The logs name the stored hashes exactly if those of every chunk do.** -/
theorem logsAnchored_iff (viem : Viem) (keccak256 : String → String) (calls : List TimedCall) :
    (analyticsRun viem keccak256 calls .empty).index.LogsAnchored
      ↔ Machine.Along (analyticsStep viem keccak256) (ChunkMatches viem) calls .empty := by
  have start : AnalyticsDatabase.empty.index.LogsAnchored :=
    fun _ mem => absurd mem List.not_mem_nil
  have decided := @Machine.run_iff_along _ _ _ (analyticsStep viem keccak256)
    (fun db => db.index.LogsReferToBlocks) (fun db => db.index.LogsAnchored) (ChunkMatches viem)
    (fun input _ refer => (logsAnchored_step input refer).1)
    (fun input _ refer => (logsAnchored_step input refer).2) calls .empty
    (fun _ mem => absurd mem List.not_mem_nil)
  rw [analyticsRun, decided, and_iff_right start]

/-- A log of block 15 under the hash of block 16, beside block 15. -/
def mismatchedChunk : Chunk where
  chainId := 1
  scope := "parallel-savings-ethereum-10-20-v1"
  runId := 0
  range := ⟨10, 20⟩
  logs := [⟨"0x0d45b129dc868963025db79a9074ea9c9e32cae4", some 15, some (sampleHash 16),
    some (sampleHash 1), some 0, some 0, ["Accrued(uint256)"], "0x", false⟩]
  blocks := [⟨15, sampleHash 15, "0x", 15⟩]
  anchor := none

/-- The chunk commits, and its log names a hash that no block has. -/
theorem logsAnchored_fails_mismatched :
    ¬ (analyticsRun ⟨fun _ _ _ => none, id⟩ id
      [⟨0, .persistChunk none mismatchedChunk blankCounters⟩] .empty).index.LogsAnchored := by
  have differ : (fun index : Database => index.rawLogs.map fun log =>
      decide ((lookup BlockRow.key index.blocks (log.chainId, log.blockNumber)).map (·.hash)
        = some log.blockHash)) (analyticsRun ⟨fun _ _ _ => none, id⟩ id
          [⟨0, .persistChunk none mismatchedChunk blankCounters⟩] .empty).index = [false] := by
    decide +kernel
  generalize (analyticsRun ⟨fun _ _ _ => none, id⟩ id
    [⟨0, .persistChunk none mismatchedChunk blankCounters⟩] .empty).index = index at differ ⊢
  intro anchored
  obtain ⟨log, logs, stored, differs, -⟩ := List.map_eq_cons_iff.mp differ
  have named := anchored log (by rw [stored]; exact List.mem_cons_self)
  rw [decide_eq_true named] at differs
  cases differs

end UsdpIndexer
