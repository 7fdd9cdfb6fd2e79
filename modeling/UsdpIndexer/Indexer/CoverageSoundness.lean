import UsdpIndexer.Indexer.System
import UsdpIndexer.Library.FailingFold

/-!
# A covered range has lost no log

A coverage row promises that every watched log of its range is stored, and every
number the program derives trusts it.  The promise concerns three tables at once:
logs are inserted with `on conflict do nothing`, only the rows that the insert
reports back are decoded, and the events are inserted with `on conflict do
nothing` again.

`StoreInvariant` is what links the tables.  Its two hard clauses are the ones
about events: an event belongs to a stored log and is what the decoder says of it,
and a stored log that decodes *has* an event — a log that was already there when
a chunk arrived is not decoded again, so its event must have come with it.

The chain is a parameter: for each chain the logs it has, of which transaction
and log index identify one.  The log provider answers exactly (`Exact`); it may
repeat logs and may order them as it likes.
-/

namespace UsdpIndexer

open Text
open KeyedTable hiding Unique

/-! ## The chain and its provider -/

/-- The logs of one chain: no two of them share transaction and log index. -/
structure ChainLogs where
  Has : MinedLog → Prop
  identified : ∀ {log log' : MinedLog}, Has log → Has log' →
    toLowerCase log.transactionHash = toLowerCase log'.transactionHash →
    log.logIndex = log'.logIndex → log = log'

/-- An address is among the watched ones; casing does not count. -/
def Watches (addresses : List String) (address : String) : Prop :=
  ∃ watched ∈ addresses, toLowerCase watched = toLowerCase address

/-- The provider's answer for a range: exactly the chain's logs of the watched
addresses there, each at least once. -/
structure Exact (chain : ChainLogs) (addresses : List String) (range : BlockRange)
    (logs : List Log) : Prop where
  mined : ∀ log ∈ logs, ∃ mined, log.mined = .ok mined
  mem_iff : ∀ mined, (∃ log ∈ logs, log.mined = .ok mined) ↔
    chain.Has mined ∧ Watches addresses mined.address ∧
      range.fromBlock ≤ mined.blockNumber ∧ mined.blockNumber ≤ range.toBlock

/-- Where a log is: the key under which it is stored. -/
def MinedLog.key (chainId : ℕ) (log : MinedLog) : ℕ × String × ℕ :=
  (chainId, toLowerCase log.transactionHash, log.logIndex)

/-- The row is the image of the log. -/
def RawLogRow.Stores (row : RawLogRow) (log : MinedLog) : Prop :=
  row = rawLogRow row.chainId row.runId row.id log

theorem RawLogRow.Stores.key_eq {row : RawLogRow} {log : MinedLog} (stores : row.Stores log) :
    row.key = log.key row.chainId := by
  rw [stores]
  rfl

/-! ## What a chunk adds -/

theorem exists_log_of_mem_rawLogRows {chainId runId : ℕ} {row : RawLogRow}
    (logs : List MinedLog) :
    ∀ id : ℕ, row ∈ rawLogRows chainId runId id logs →
      id ≤ row.id ∧ row.id < id + logs.length ∧
        ∃ log ∈ logs, row = rawLogRow chainId runId row.id log := by
  induction logs with
  | nil => intro id mem; simp [rawLogRows] at mem
  | cons log logs ih =>
      intro id mem
      rw [rawLogRows, List.mem_cons] at mem
      rcases mem with rfl | mem
      · exact ⟨le_rfl, by simp [rawLogRow], log, List.mem_cons_self, rfl⟩
      · obtain ⟨lower, upper, other, hother, eq⟩ := ih (id + 1) mem
        rw [List.length_cons]
        exact ⟨by omega, by omega, other, List.mem_cons_of_mem _ hother, eq⟩

theorem exists_mem_rawLogRows (chainId runId : ℕ) {log : MinedLog} (logs : List MinedLog) :
    ∀ id : ℕ, log ∈ logs →
      ∃ n, rawLogRow chainId runId n log ∈ rawLogRows chainId runId id logs := by
  induction logs with
  | nil => intro id mem; simp at mem
  | cons head logs ih =>
      intro id mem
      rw [rawLogRows]
      rcases List.mem_cons.mp mem with rfl | mem
      · exact ⟨id, List.mem_cons_self⟩
      · obtain ⟨n, hn⟩ := ih (id + 1) mem
        exact ⟨n, List.mem_cons_of_mem _ hn⟩

/-- The numbers drawn from the sequence are distinct. -/
theorem nodup_id_rawLogRows {chainId runId : ℕ} (logs : List MinedLog) :
    ∀ id : ℕ, ((rawLogRows chainId runId id logs).map RawLogRow.id).Nodup := by
  induction logs with
  | nil => intro id; exact List.nodup_nil
  | cons log logs ih =>
      intro id
      rw [rawLogRows, List.map_cons, List.nodup_cons]
      refine ⟨?_, ih (id + 1)⟩
      intro mem
      obtain ⟨row, hrow, same⟩ := List.mem_map.mp mem
      have := (exists_log_of_mem_rawLogRows logs (id + 1) hrow).1
      change row.id = id at same
      omega

section Chunk

variable {viem : Viem} {chainId runId : ℕ} {logs : List MinedLog} {db : Database}

theorem exists_log_of_mem_newRawLogs {row : RawLogRow}
    (mem : row ∈ newRawLogs chainId runId logs db) :
    db.rawLogSequence ≤ row.id ∧ row.id < db.rawLogSequence + logs.length ∧
      ∃ log ∈ logs, row = rawLogRow chainId runId row.id log :=
  exists_log_of_mem_rawLogRows logs _ (mem_of_mem_fresh RawLogRow.key mem)

theorem nodup_id_newRawLogs : ((newRawLogs chainId runId logs db).map RawLogRow.id).Nodup :=
  (nodup_id_rawLogRows logs _).sublist ((fresh_sublist RawLogRow.key _ _).map _)

/-- Every log of the chunk is stored afterwards. -/
theorem key_mem_newRawLogs {log : MinedLog} (mem : log ∈ logs) :
    ∃ row ∈ db.rawLogs ++ newRawLogs chainId runId logs db, row.key = log.key chainId := by
  obtain ⟨n, hn⟩ := exists_mem_rawLogRows chainId runId logs db.rawLogSequence mem
  exact exists_row_of_mem_insertNew RawLogRow.key db.rawLogs hn

/-- The row that the loop finds for a log has its transaction and its index. -/
theorem insertedRow_eq_some {inserted : List RawLogRow} {log : MinedLog} {row : RawLogRow}
    (found : insertedRow inserted log = some row) :
    row ∈ inserted ∧ toLowerCase row.transactionHash = toLowerCase log.transactionHash ∧
      row.logIndex = log.logIndex :=
  ⟨List.mem_of_find?_eq_some found, by simpa using List.find?_some found⟩

/-- The events of a chunk are those of its logs that were inserted. -/
theorem mem_decodeInserted {inserted : List RawLogRow} {event : ProtocolEventRow} :
    event ∈ (decodeInserted viem chainId inserted logs).1 ↔
      ∃ log ∈ logs, ∃ row, insertedRow inserted log = some row ∧
        ∃ decoded, decodeProtocolLog viem chainId log.address log.data log.topics = some decoded ∧
          event = protocolEventRow chainId row.id log decoded := by
  induction logs with
  | nil => simp [decodeInserted]
  | cons log logs ih =>
      simp only [List.mem_cons, exists_eq_or_imp]
      rw [← ih, decodeInserted]
      cases found : insertedRow inserted log with
      | none => simp
      | some row =>
          cases decodes : decodeProtocolLog viem chainId log.address log.data log.topics with
          | none => simp
          | some decoded => simp

end Chunk

/-! ## The invariant -/

/-- The three tables belong together. -/
structure StoreInvariant (viem : Viem) (chains : ℕ → ChainLogs) (watched : Lane → List String)
    (db : Database) : Prop where
  rawLogs_unique : KeyedTable.Unique RawLogRow.key db.rawLogs
  rawLogs_ids : KeyedTable.Unique RawLogRow.id db.rawLogs
  rawLogs_sequence : ∀ row ∈ db.rawLogs, row.id < db.rawLogSequence
  rawLogs_stored : ∀ row ∈ db.rawLogs, ∃ log, (chains row.chainId).Has log ∧ row.Stores log
  events_unique : KeyedTable.Unique ProtocolEventRow.rawLogId db.protocolEvents
  events_sound : ∀ event ∈ db.protocolEvents, ∃ row ∈ db.rawLogs, ∃ log decoded,
    (chains row.chainId).Has log ∧ row.Stores log ∧
      decodeProtocolLog viem row.chainId log.address log.data log.topics = some decoded ∧
      event = protocolEventRow row.chainId row.id log decoded
  events_complete : ∀ row ∈ db.rawLogs, ∀ log decoded, row.Stores log →
    (chains row.chainId).Has log →
    decodeProtocolLog viem row.chainId log.address log.data log.topics = some decoded →
      ∃ event ∈ db.protocolEvents, event.rawLogId = row.id
  covered : ∀ range ∈ db.coverage, ∀ log, (chains range.chainId).Has log →
    Watches (watched ⟨range.chainId, range.scope⟩) log.address →
    range.fromBlock ≤ log.blockNumber → log.blockNumber ≤ range.toBlock →
      ∃ row ∈ db.rawLogs, row.key = log.key range.chainId

theorem StoreInvariant.empty (viem : Viem) (chains : ℕ → ChainLogs)
    (watched : Lane → List String) : StoreInvariant viem chains watched Database.empty where
  rawLogs_unique := unique_nil _
  rawLogs_ids := unique_nil _
  rawLogs_sequence := fun _ mem => nomatch mem
  rawLogs_stored := fun _ mem => nomatch mem
  events_unique := unique_nil _
  events_sound := fun _ mem => nomatch mem
  events_complete := fun _ mem => nomatch mem
  covered := fun _ mem => nomatch mem

section Invariant

variable {viem : Viem} {chains : ℕ → ChainLogs} {watched : Lane → List String} {db : Database}

/-- A row that is the image of some chain log is the image of every chain log
with its key. -/
theorem stores_of_key_eq {row : RawLogRow}
    (stored : ∃ log, (chains row.chainId).Has log ∧ row.Stores log) {chainId : ℕ}
    {log : MinedLog} (has : (chains chainId).Has log) (same : row.key = log.key chainId) :
    row.chainId = chainId ∧ row.Stores log := by
  obtain ⟨other, hasOther, stores⟩ := stored
  have key := stores.key_eq.symm.trans same
  simp only [MinedLog.key, Prod.mk.injEq] at key
  obtain ⟨chain, transaction, index⟩ := key
  rw [chain] at hasOther
  rw [(chains chainId).identified hasOther has transaction index] at stores
  exact ⟨chain, stores⟩

/-- Blocks and runs are no part of the invariant. -/
theorem StoreInvariant.of_eq (inv : StoreInvariant viem chains watched db) (db' : Database)
    (rawLogs : db'.rawLogs = db.rawLogs) (sequence : db'.rawLogSequence = db.rawLogSequence)
    (events : db'.protocolEvents = db.protocolEvents) (coverage : db'.coverage = db.coverage) :
    StoreInvariant viem chains watched db' where
  rawLogs_unique := rawLogs ▸ inv.rawLogs_unique
  rawLogs_ids := rawLogs ▸ inv.rawLogs_ids
  rawLogs_sequence := by rw [rawLogs, sequence]; exact inv.rawLogs_sequence
  rawLogs_stored := by rw [rawLogs]; exact inv.rawLogs_stored
  events_unique := events ▸ inv.events_unique
  events_sound := by rw [rawLogs, events]; exact inv.events_sound
  events_complete := by rw [rawLogs, events]; exact inv.events_complete
  covered := by rw [rawLogs, coverage]; exact inv.covered

/-- What is fetched for a chunk: the chain's logs, and every watched one of its
range. -/
structure ChunkLogs (chains : ℕ → ChainLogs) (watched : Lane → List String) (chunk : Chunk)
    (logs : List MinedLog) : Prop where
  has : ∀ log ∈ logs, (chains chunk.chainId).Has log
  complete : ∀ log, (chains chunk.chainId).Has log →
    Watches (watched ⟨chunk.chainId, chunk.scope⟩) log.address →
    chunk.range.fromBlock ≤ log.blockNumber → log.blockNumber ≤ chunk.range.toBlock → log ∈ logs

variable {chunk : Chunk} {logs : List MinedLog}

/-- The log of the chunk a new row was made of. -/
theorem exists_stored_of_mem_newRawLogs {row : RawLogRow}
    (mem : row ∈ newRawLogs chunk.chainId chunk.runId logs db) :
    row.chainId = chunk.chainId ∧ ∃ log ∈ logs, row.Stores log := by
  obtain ⟨-, -, log, hlog, eq⟩ := exists_log_of_mem_newRawLogs mem
  have chain : row.chainId = chunk.chainId := by rw [eq]; rfl
  have run : row.runId = chunk.runId := by rw [eq]; rfl
  refine ⟨chain, log, hlog, ?_⟩
  rw [RawLogRow.Stores, chain, run]
  exact eq

/-- The raw logs after a chunk are unique, by key and by number. -/
theorem StoreInvariant.rawLogs_chunk (inv : StoreInvariant viem chains watched db)
    (chunk : Chunk) (logs : List MinedLog) :
    let rawLogs := db.rawLogs ++ newRawLogs chunk.chainId chunk.runId logs db
    KeyedTable.Unique RawLogRow.key rawLogs ∧ KeyedTable.Unique RawLogRow.id rawLogs ∧
      ∀ row ∈ rawLogs, row.id < db.rawLogSequence + logs.length := by
  refine ⟨unique_insertNew RawLogRow.key _ _ inv.rawLogs_unique, ?_, ?_⟩
  · rw [KeyedTable.Unique, List.map_append, List.nodup_append]
    refine ⟨inv.rawLogs_ids, nodup_id_newRawLogs, ?_⟩
    rintro id hid id' hid' rfl
    obtain ⟨row, hrow, rfl⟩ := List.mem_map.mp hid
    obtain ⟨row', hrow', same⟩ := List.mem_map.mp hid'
    have old := inv.rawLogs_sequence row hrow
    have new := (exists_log_of_mem_newRawLogs hrow').1
    omega
  · intro row mem
    rcases List.mem_append.mp mem with old | new
    · have := inv.rawLogs_sequence row old
      omega
    · exact (exists_log_of_mem_newRawLogs new).2.1

/-- The row that the loop finds for a log was inserted for its key. -/
theorem key_eq_of_insertedRow {row : RawLogRow} {log : MinedLog}
    (found : insertedRow (newRawLogs chunk.chainId chunk.runId logs db) log = some row) :
    row ∈ newRawLogs chunk.chainId chunk.runId logs db ∧ row.key = log.key chunk.chainId := by
  obtain ⟨mem, transaction, index⟩ := insertedRow_eq_some found
  obtain ⟨chain, other, -, stores⟩ := exists_stored_of_mem_newRawLogs mem
  refine ⟨mem, ?_⟩
  -- a stored hash is in lower case already
  rw [stores] at transaction index
  simp only [rawLogRow, toLowerCase_toLowerCase] at transaction index
  rw [stores.key_eq, chain]
  simp only [MinedLog.key, transaction, index]

/-- The loop finds the row of every log that was inserted. -/
theorem insertedRow_of_stores (inv : StoreInvariant viem chains watched db)
    {row : RawLogRow} (mem : row ∈ newRawLogs chunk.chainId chunk.runId logs db)
    {log : MinedLog} (stores : row.Stores log) :
    insertedRow (newRawLogs chunk.chainId chunk.runId logs db) log = some row := by
  have matches_ : toLowerCase row.transactionHash = toLowerCase log.transactionHash ∧
      row.logIndex = log.logIndex := by
    rw [stores]
    exact ⟨toLowerCase_toLowerCase _, rfl⟩
  cases found : insertedRow (newRawLogs chunk.chainId chunk.runId logs db) log with
  | none =>
      have := List.find?_eq_none.mp found row mem
      simp [matches_] at this
  | some other =>
      obtain ⟨hother, key⟩ := key_eq_of_insertedRow found
      -- both rows were inserted for the key of the log
      have same : other.key = row.key := by
        rw [key, stores.key_eq, (exists_stored_of_mem_newRawLogs mem).1]
      have unique := (inv.rawLogs_chunk chunk logs).1
      rw [unique.eq_of_key_eq RawLogRow.key (List.mem_append_right _ hother)
        (List.mem_append_right _ mem) same]

/-- **A committed chunk keeps the invariant.** -/
theorem StoreInvariant.writeChunk (inv : StoreInvariant viem chains watched db)
    (fetched : ChunkLogs chains watched chunk logs) :
    StoreInvariant viem chains watched (writeChunk viem chunk logs db) := by
  obtain ⟨unique, ids, sequence⟩ := inv.rawLogs_chunk chunk logs
  have stored : ∀ row ∈ db.rawLogs ++ newRawLogs chunk.chainId chunk.runId logs db,
      ∃ log, (chains row.chainId).Has log ∧ row.Stores log := by
    intro row mem
    rcases List.mem_append.mp mem with old | new
    · exact inv.rawLogs_stored row old
    · obtain ⟨chain, log, hlog, stores⟩ := exists_stored_of_mem_newRawLogs new
      exact ⟨log, chain ▸ fetched.has log hlog, stores⟩
  refine
    { rawLogs_unique := unique
      rawLogs_ids := ids
      rawLogs_sequence := sequence
      rawLogs_stored := stored
      events_unique := unique_insertNew _ _ _ inv.events_unique
      events_sound := ?_
      events_complete := ?_
      covered := ?_ }
  · intro event mem
    rcases (mem_insertNew _).mp mem with old | new
    · obtain ⟨row, hrow, rest⟩ := inv.events_sound event old
      exact ⟨row, List.mem_append_left _ hrow, rest⟩
    · obtain ⟨log, hlog, row, found, decoded, decodes, rfl⟩ :=
        mem_decodeInserted.mp (mem_of_mem_fresh _ new)
      obtain ⟨hrow, same⟩ := key_eq_of_insertedRow found
      have has := fetched.has log hlog
      obtain ⟨chain, stores⟩ :=
        stores_of_key_eq (stored row (List.mem_append_right _ hrow)) has same
      refine ⟨row, List.mem_append_right _ hrow, log, decoded, chain ▸ has, stores, ?_, ?_⟩
      · rw [chain]
        exact decodes
      · rw [chain]
  · intro row mem log decoded stores has decodes
    rcases List.mem_append.mp mem with old | new
    · -- an old row is not decoded again, and has its event already
      obtain ⟨event, hevent, id⟩ := inv.events_complete row old log decoded stores has decodes
      exact ⟨event, (mem_insertNew _).mpr (.inl hevent), id⟩
    · -- a new row was made of a log of this chunk, and only one log has its key
      obtain ⟨chain, other, hother, storesOther⟩ := exists_stored_of_mem_newRawLogs new
      rw [chain] at has decodes
      have key : other.key chunk.chainId = log.key chunk.chainId := by
        rw [← chain, ← storesOther.key_eq, stores.key_eq]
      simp only [MinedLog.key, Prod.mk.injEq, true_and] at key
      have same := (chains chunk.chainId).identified (fetched.has other hother) has key.1 key.2
      rw [same] at hother
      have decodedEvent := mem_decodeInserted.mpr
        ⟨log, hother, row, insertedRow_of_stores inv new stores, decoded, decodes, rfl⟩
      exact exists_row_of_mem_insertNew ProtocolEventRow.rawLogId _ decodedEvent
  · intro range mem log has watches lower upper
    rcases (mem_insertNew _).mp mem with old | new
    · obtain ⟨row, hrow, key⟩ := inv.covered range old log has watches lower upper
      exact ⟨row, List.mem_append_left _ hrow, key⟩
    · obtain rfl := List.mem_singleton.mp (mem_of_mem_fresh _ new)
      exact key_mem_newRawLogs (fetched.complete log has watches lower upper)

end Invariant

/-! ## The invariant along a run of the system -/

section System

variable (viem : Viem) (chains : ℕ → ChainLogs) (watched : Lane → List String)

/-- What the environment promises: a run is started with the watched addresses
of its lane, and its provider answers exactly. -/
def ExactInput (input : SystemInput) (s : SystemState) : Prop :=
  match input with
  | .start options _ =>
      ∀ address, Watches options.addresses address ↔ Watches (watched options.lane) address
  | .step index input => ∀ run ∈ s.runs[index]?,
      input.Meets run.options.addresses (Exact (chains run.options.chainId) run.options.addresses)

/-- The tables belong together, and every fetched chunk is exact. -/
structure SystemInvariant (s : SystemState) : Prop where
  store : StoreInvariant viem chains watched s.database
  addresses : ∀ run ∈ s.runs, ∀ address,
    Watches run.options.addresses address ↔ Watches (watched run.options.lane) address
  fetches : ∀ run ∈ s.runs, ∀ fetch ∈ run.fetchedBatch,
    fetch.Sound (Exact (chains run.options.chainId) run.options.addresses)

variable {viem chains watched}

/-- What a run does to the database keeps the invariant of the store. -/
theorem Advance.storeInvariant {input : RunInput} {s : RunState}
    {r : RunState × List BlockRange} (step : Advance viem input s r)
    (inv : StoreInvariant viem chains watched s.database)
    (addresses : ∀ address,
      Watches s.run.options.addresses address ↔ Watches (watched s.run.options.lane) address)
    (fetches : ∀ fetch ∈ s.run.fetchedBatch,
      fetch.Sound (Exact (chains s.run.options.chainId) s.run.options.addresses)) :
    StoreInvariant viem chains watched r.1.database := by
  cases step with
  | fetched dropped index answer =>
      unfold fetchStep
      cases dropped <;> exact inv
  | stopped => exact inv.of_eq _ rfl rfl rfl rfl
  | committed answers head rest fetched blocks anchor counters counters' runs outcome _ _ batch
      returned _ commit =>
      have answer := ((fetches head (by simp [batch])).returned fetched returned).2.1
      obtain ⟨logs, mined, -, -, written⟩ := persistChunk_committed commit
      have logs_iff (log : MinedLog) : log ∈ logs ↔ _ :=
        (FailingFold.mem_of_mapM_eq_ok mined log).trans (answer.mem_iff log)
      have chunkLogs : ChunkLogs chains watched (s.run.chunk fetched blocks anchor) logs :=
        { has := fun log mem => ((logs_iff log).mp mem).1
          complete := fun log has watches lower upper =>
            (logs_iff log).mpr ⟨has, (addresses log.address).mpr watches, lower, upper⟩ }
      have next := (inv.of_eq ((s.run.chunk fetched blocks anchor).withBlocks s.database)
        rfl rfl rfl rfl).writeChunk chunkLogs
      rw [← written] at next
      exact next.of_eq _ rfl rfl rfl rfl
  | _ => exact inv

/-- **Every step of the system keeps the invariant.** -/
theorem SystemInvariant.step {input : SystemInput} {s : SystemState}
    (promised : ExactInput chains watched input s) (inv : SystemInvariant viem chains watched s) :
    SystemInvariant viem chains watched (systemStep viem input s).1 := by
  rcases systemStep_spec viem input s with eq | ⟨options, answers, finalizedHead, rfl, -, eq⟩ |
    ⟨index, runInput, run, next, rfl, found, step, eq⟩
  · rw [eq]
    exact inv
  · rw [eq]
    refine ⟨inv.store.of_eq _ rfl rfl rfl rfl, fun run mem => ?_, fun run mem => ?_⟩
    · rcases List.mem_append.mp mem with old | new
      · exact inv.addresses run old
      · obtain rfl := List.mem_singleton.mp new
        exact promised
    · rcases List.mem_append.mp mem with old | new
      · exact inv.fetches run old
      · obtain rfl := List.mem_singleton.mp new
        exact fun _ mem => nomatch mem
  · rw [eq]
    have mem : run ∈ s.runs := List.mem_of_getElem? found
    have options := step.options_eq
    refine ⟨step.storeInvariant inv.store (inv.addresses run mem) (inv.fetches run mem),
      fun other hother => ?_, fun other hother => ?_⟩
    · rcases List.mem_or_eq_of_mem_set hother with old | rfl
      · exact inv.addresses other old
      · rw [options]
        exact inv.addresses run mem
    · rcases List.mem_or_eq_of_mem_set hother with old | rfl
      · exact inv.fetches other old
      · rw [options]
        exact step.sound (promised run found) (inv.fetches run mem)

theorem systemInvariant_run {schedule : List SystemInput}
    (promised : Machine.Along (systemStep viem) (ExactInput chains watched) schedule .empty) :
    SystemInvariant viem chains watched
      (Machine.run (systemStep viem) schedule .empty).1 := by
  refine Machine.run_invariant_along (fun s _ => SystemInvariant viem chains watched s)
    (fun input s _ promised inv => inv.step promised) schedule promised ?_
  exact
    { store := .empty viem chains watched
      addresses := fun _ mem => nomatch mem
      fetches := fun _ mem => nomatch mem }

/-- A covered log is stored, once, and its event, if it decodes, is there once. -/
theorem StoreInvariant.countP_eq_one {db : Database}
    (inv : StoreInvariant viem chains watched db) {range : CoverageRow}
    (covers : range ∈ db.coverage) {log : MinedLog} (has : (chains range.chainId).Has log)
    (watches : Watches (watched ⟨range.chainId, range.scope⟩) log.address)
    (lower : range.fromBlock ≤ log.blockNumber) (upper : log.blockNumber ≤ range.toBlock) :
    (∃ row ∈ db.rawLogs, row.chainId = range.chainId ∧ row.Stores log) ∧
    db.rawLogs.countP (fun row => row.key = log.key range.chainId) = 1 ∧
    ((decodeProtocolLog viem range.chainId log.address log.data log.topics).isSome →
      db.protocolEvents.countP (fun event =>
        (event.chainId, event.blockNumber, event.transactionHash, event.logIndex)
          = (range.chainId, log.blockNumber, toLowerCase log.transactionHash, log.logIndex))
        = 1) := by
  obtain ⟨row, mem, key⟩ := inv.covered range covers log has watches lower upper
  obtain ⟨chain, stores⟩ := stores_of_key_eq (inv.rawLogs_stored row mem) has key
  refine ⟨⟨row, mem, chain, stores⟩, ?_, fun decodes => ?_⟩
  · rw [← key]
    exact inv.rawLogs_unique.countP_key_eq_one RawLogRow.key mem
  · obtain ⟨decoded, decodes⟩ := Option.isSome_iff_exists.mp decodes
    obtain ⟨event, hevent, id⟩ := inv.events_complete row mem log decoded stores (chain ▸ has)
      (chain ▸ decodes)
    rw [← inv.events_unique.countP_key_eq_one ProtocolEventRow.rawLogId hevent]
    refine List.countP_congr fun other hother => ?_
    simp only [decide_eq_true_eq]
    obtain ⟨otherRow, otherMem, otherLog, otherDecoded, otherHas, otherStores, -, rfl⟩ :=
      inv.events_sound other hother
    rw [id]
    -- an event at the position of the log is the event of its row
    constructor
    · intro same
      simp only [protocolEventRow, Prod.mk.injEq] at same
      obtain ⟨otherChain, -, transaction, index⟩ := same
      have sameRow : otherRow = row := by
        apply inv.rawLogs_unique.eq_of_key_eq RawLogRow.key otherMem mem
        rw [key, otherStores.key_eq]
        simp only [MinedLog.key, otherChain, transaction, index]
      rw [sameRow]
      rfl
    · intro same
      have sameRow : otherRow = row :=
        inv.rawLogs_ids.eq_of_key_eq RawLogRow.id otherMem mem same
      subst sameRow
      have sameKey := otherStores.key_eq.symm.trans stores.key_eq
      simp only [MinedLog.key, Prod.mk.injEq, true_and] at sameKey
      rw [(chains otherRow.chainId).identified otherHas (chain ▸ has) sameKey.1 sameKey.2]
      simp only [protocolEventRow, chain]

/-- **Coverage is sound.**  Whatever runs are started on whatever lanes, however
their chunks interleave, fail and repeat: a watched log in a covered range is
stored exactly once, and if it decodes it has exactly one event. -/
theorem coverage_sound (viem : Viem) (chains : ℕ → ChainLogs) (watched : Lane → List String)
    (schedule : List SystemInput)
    (promised : Machine.Along (systemStep viem) (ExactInput chains watched) schedule .empty) :
    let db := (Machine.run (systemStep viem) schedule .empty).1.database
    ∀ range ∈ db.coverage, ∀ log, (chains range.chainId).Has log →
      Watches (watched ⟨range.chainId, range.scope⟩) log.address →
      range.fromBlock ≤ log.blockNumber → log.blockNumber ≤ range.toBlock →
      (∃ row ∈ db.rawLogs, row.chainId = range.chainId ∧ row.Stores log) ∧
      db.rawLogs.countP (fun row => row.key = log.key range.chainId) = 1 ∧
      ((decodeProtocolLog viem range.chainId log.address log.data log.topics).isSome →
        db.protocolEvents.countP (fun event =>
          (event.chainId, event.blockNumber, event.transactionHash, event.logIndex)
            = (range.chainId, log.blockNumber, toLowerCase log.transactionHash, log.logIndex))
          = 1) :=
  fun _ covers _ has watches lower upper =>
    (systemInvariant_run promised).store.countP_eq_one covers has watches lower upper

end System

/-! ### A provider that repeats itself

A chain with a single log, and a provider that answers exactly, but twice. -/

instance (addresses : List String) (address : String) : Decidable (Watches addresses address) :=
  inferInstanceAs (Decidable (∃ watched ∈ addresses, _))

/-- The log as RPC returns it. -/
def MinedLog.toLog (log : MinedLog) : Log :=
  ⟨log.address, some log.blockNumber, some log.blockHash, some log.transactionHash,
    some log.transactionIndex, some log.logIndex, log.topics, log.data, log.removed⟩

/-- A chain with one log. -/
def ChainLogs.single (log : MinedLog) : ChainLogs where
  Has := (· = log)
  identified := by
    rintro _ _ rfl rfl _ _
    rfl

/-- A provider that returns the log twice. -/
def getSingleLog (log : MinedLog) (addresses : List String) (range : BlockRange) :
    Except JsError (List Log) :=
  if Watches addresses log.address ∧ range.fromBlock ≤ log.blockNumber ∧
      log.blockNumber ≤ range.toBlock then .ok [log.toLog, log.toLog]
  else .ok []

theorem exact_getSingleLog {log : MinedLog} (hashes : log.blockHash ≠ "" ∧ log.transactionHash ≠ "")
    (addresses : List String) (range : BlockRange) (logs : List Log)
    (answer : getSingleLog log addresses range = .ok logs) :
    Exact (.single log) addresses range logs := by
  have mined : log.toLog.mined = .ok log := by simp [MinedLog.toLog, Log.mined, hashes]
  unfold getSingleLog at answer
  split at answer
  · rename_i inside
    cases answer
    refine ⟨by simp [mined], fun other => ?_⟩
    simp only [List.mem_cons, List.not_mem_nil, or_false, or_self, exists_eq_left, mined,
      Except.ok.injEq, ChainLogs.single]
    constructor
    · rintro rfl
      exact ⟨rfl, inside⟩
    · rintro ⟨rfl, -⟩
      rfl
  · rename_i outside
    cases answer
    refine ⟨by simp, fun other => ?_⟩
    simp only [List.not_mem_nil, false_and, exists_false, ChainLogs.single, false_iff]
    rintro ⟨rfl, inside⟩
    exact outside inside

/-- The topic of `Accrued(uint256)`. -/
def accruedTopic : String := "0xf3486c8be7415104f077b000d812e60c482b6824642b7673b3f73d6faeca29a6"

/-- An accrual of 5 on HyperEVM. -/
def accruedLog : MinedLog where
  address := hyperevmSusdpAddress
  blockNumber := 120
  blockHash := sampleHash 120
  transactionHash := "0xa1"
  transactionIndex := 0
  logIndex := 3
  topics := [accruedTopic]
  data := "0x0000000000000000000000000000000000000000000000000000000000000005"
  removed := false

/-- What the package makes of that log. -/
def accruedViem : Viem where
  decodeEventLog := fun abi data topics =>
    if abi = .savingsAbi ∧ topics = [accruedTopic] ∧ data = accruedLog.data then
      some ⟨"Accrued", some (.object [("interest", .bigint 5)])⟩
    else none
  toEventSelector := fun signature => if signature = "Accrued(uint256)" then accruedTopic else ""

/-- One run over `[100, 149]` in one chunk. -/
def accruedSchedule : List SystemInput :=
  .start (sampleOptions 100 149 50) (sampleStart 200) ::
    (sampleLoop (getSingleLog accruedLog)).map (.step 0)

theorem coverage_sound_accrued :
    let db := (Machine.run (systemStep accruedViem) accruedSchedule .empty).1.database
    db.rawLogs.countP (fun row => row.key = accruedLog.key 999) = 1 ∧
    db.protocolEvents.countP (fun event =>
      (event.chainId, event.blockNumber, event.transactionHash, event.logIndex)
        = (999, 120, toLowerCase accruedLog.transactionHash, 3)) = 1 := by
  intro db
  have sound := coverage_sound accruedViem (fun _ => .single accruedLog)
    (fun _ => hyperevmAddresses) accruedSchedule
    ⟨fun _ => Iff.rfl, fun _ _ => trivial,
      fun _ _ => exact_getSingleLog (by decide +kernel) _, fun _ _ => trivial, fun _ _ => trivial,
      trivial⟩
    ⟨999, DEFAULT_INDEXER_SCOPE, 100, 149, 0⟩ (by decide +kernel) accruedLog rfl
    (by decide +kernel) (by decide) (by decide)
  exact ⟨sound.2.1, sound.2.2 (by decide +kernel)⟩

end UsdpIndexer
