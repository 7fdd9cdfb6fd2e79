import UsdpIndexer.Indexer.CoverageSoundness

/-!
# Every event has its block

The readers join the events with their blocks, and an event without one would not be read.
The foreign key holds for the raw logs, whatever the providers answer; the event of a log is
of the log's block as long as transaction and log index identify a log.
-/

namespace UsdpIndexer

open KeyedTable hiding Unique

namespace Database

/-- `raw_logs_block_fk`. -/
def RawLogsHaveBlocks (db : Database) : Prop :=
  ∀ row ∈ db.rawLogs, (row.chainId, row.blockNumber) ∈ db.blocks.map BlockRow.key

/-- The block of every event is stored. -/
def EventsHaveBlocks (db : Database) : Prop :=
  ∀ event ∈ db.protocolEvents, (event.chainId, event.blockNumber) ∈ db.blocks.map BlockRow.key

end Database

/-- The blocks of a chunk are added to those that are there. -/
theorem mem_blocks_withBlocks {chunk : Chunk} {db : Database} {k : ℕ × ℤ}
    (mem : k ∈ db.blocks.map BlockRow.key) :
    k ∈ (chunk.withBlocks db).blocks.map BlockRow.key := by
  obtain ⟨row, hrow, rfl⟩ := List.mem_map.mp mem
  exact List.mem_map_of_mem ((mem_insertNew _).mpr (.inl hrow))

/-- **Every step of a run keeps the foreign key.** -/
theorem Advance.rawLogsHaveBlocks {viem : Viem} {input : RunInput} {s : RunState}
    {r : RunState × List BlockRange} (step : Advance viem input s r)
    (stored : s.database.RawLogsHaveBlocks) : r.1.database.RawLogsHaveBlocks := by
  cases step with
  | fetched dropped index answer =>
      unfold fetchStep
      cases dropped <;> exact stored
  | committed answers head rest fetched blocks anchor counters counters' runs outcome _ _ _ _ _
      commit =>
      obtain ⟨logs, -, -, anchored, written⟩ := persistChunk_committed commit
      intro row mem
      simp only [written] at mem ⊢
      rcases List.mem_append.mp mem with old | new
      · exact mem_blocks_withBlocks (stored row old)
      · exact anchored row new
  | _ => exact stored

theorem rawLogsHaveBlocks_step {viem : Viem} (input : SystemInput) {s : SystemState}
    (stored : s.database.RawLogsHaveBlocks) :
    (systemStep viem input s).1.database.RawLogsHaveBlocks := by
  rcases systemStep_spec viem input s with eq | ⟨_, _, _, -, -, eq⟩ | ⟨_, _, _, _, -, -, step, eq⟩
  · rw [eq]
    exact stored
  · rw [eq]
    exact stored
  · rw [eq]
    exact step.rawLogsHaveBlocks stored

theorem rawLogsHaveBlocks_run (viem : Viem) (schedule : List SystemInput) :
    (Machine.run (systemStep viem) schedule .empty).1.database.RawLogsHaveBlocks := by
  refine Machine.run_invariant (fun (s : SystemState) _ => s.database.RawLogsHaveBlocks)
    (fun input _ _ stored => rawLogsHaveBlocks_step input stored) schedule ?_
  intro row mem
  exact absurd mem List.not_mem_nil

/-- **With an exact provider every event has its block**, at any moment of any interleaving. -/
theorem eventsHaveBlocks_run {viem : Viem} {chains : ℕ → ChainLogs} {watched : Lane → List String}
    {schedule : List SystemInput}
    (promised : Machine.Along (systemStep viem) (ExactInput chains watched) schedule .empty) :
    (Machine.run (systemStep viem) schedule .empty).1.database.EventsHaveBlocks := by
  intro event mem
  obtain ⟨row, hrow, log, decoded, -, stores, -, rfl⟩ :=
    (systemInvariant_run promised).store.events_sound event mem
  have block : row.blockNumber = log.blockNumber := congrArg RawLogRow.blockNumber stores
  have stored := rawLogsHaveBlocks_run viem schedule row hrow
  rw [block] at stored
  exact stored

end UsdpIndexer
