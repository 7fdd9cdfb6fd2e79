import UsdpIndexer.Indexer.ChunkOutcome

/-!
# What the counters of a run describe

`indexer_runs` holds the counters of each run, for whoever wants to know what the run has done.
They are meant to describe committed work, but are written from variables that a rollback does
not reset.

`ledgerStep` keeps a ledger beside the system: for every chunk that a run commits its range, and
by how many rows the tables have grown.  `Describes` compares counters with the ledger, and
`run_counters_iff` says in which runs the rows of `indexer_runs` agree with it at every moment.
-/

namespace UsdpIndexer

open KeyedTable hiding Unique

/-! ## The ledger -/

/-- A committed chunk: its range, and the rows that it has added. -/
structure CommittedChunk where
  range : BlockRange
  rawLogs : ℕ
  protocolEvents : ℕ
deriving DecidableEq

/-- The system, and by run the chunks that were committed. -/
structure LedgerState where
  system : SystemState
  ledger : List (ℕ × CommittedChunk)

/-- No run has been started, and nothing committed. -/
def LedgerState.start (db : Database) : LedgerState := ⟨⟨db, []⟩, []⟩

/-- What a run has committed, in order. -/
def LedgerState.committed (s : LedgerState) (run : ℕ) : List CommittedChunk :=
  (s.ledger.filter fun entry => entry.1 = run).map Prod.snd

/-- A committed chunk, from the tables before and after. -/
def CommittedChunk.between (before after : Database) (range : BlockRange) : CommittedChunk where
  range := range
  rawLogs := after.rawLogs.length - before.rawLogs.length
  protocolEvents := after.protocolEvents.length - before.protocolEvents.length

/-- The entry for an event. -/
def SystemEvent.entry (before after : Database) : SystemEvent → Option (ℕ × CommittedChunk)
  | .started _ _ => none
  | .committed run _ range => some (run, .between before after range)

/-- A step of the system, entered in the ledger. -/
def ledgerStep (viem : Viem) (input : SystemInput) (s : LedgerState) :
    LedgerState × List SystemEvent :=
  let next := systemStep viem input s.system
  (⟨next.1, s.ledger ++ next.2.filterMap (SystemEvent.entry s.system.database next.1.database)⟩,
    next.2)

/-- The ledger does not interfere. -/
theorem system_run_ledgerStep (viem : Viem) (schedule : List SystemInput) :
    ∀ s : LedgerState, (Machine.run (ledgerStep viem) schedule s).1.system
      = (Machine.run (systemStep viem) schedule s.system).1 := by
  induction schedule with
  | nil => intro s; rfl
  | cons input schedule ih => intro s; exact ih _

/-- The counters agree with the ledger, but for the events. -/
structure IngestionCounters.Tallies (counters : IngestionCounters)
    (committed : List CommittedChunk) : Prop where
  fetched : counters.logsFetched = counters.rawLogsInserted + counters.duplicateRawLogs
  rawLogs : counters.rawLogsInserted = (committed.map CommittedChunk.rawLogs).sum
  chunks : counters.chunks = committed.length
  blocks : counters.blocksCovered
    = (committed.map fun chunk => chunk.range.toBlock - chunk.range.fromBlock + 1).sum

/-- **The counters describe committed work.** -/
structure IngestionCounters.Describes (counters : IngestionCounters)
    (committed : List CommittedChunk) : Prop extends counters.Tallies committed where
  events : counters.eventsDecoded = (committed.map CommittedChunk.protocolEvents).sum

/-- `select … from indexer_runs where id = …`. -/
def Database.runRow (db : Database) (runId : ℕ) : Option IndexerRunRow :=
  lookup IndexerRunRow.id db.runs runId

/-- The row of a run describes the chunks that it counts; and it counts all that are committed
unless the run has thrown and could not update its row. -/
def RowDescribes (db : Database) (run : IngestRun) (committed : List CommittedChunk) : Prop :=
  ∃ row, db.runRow run.runId = some row ∧
    row.counters.Describes (committed.take row.counters.chunks) ∧
    (run.outcome = .waiting ∨ row.status ≠ .running → row.counters.chunks = committed.length)

/-- The rows of all runs describe what the runs have committed. -/
def LedgerState.RowsDescribe (s : LedgerState) : Prop :=
  ∀ index run, s.system.runs[index]? = some run →
    RowDescribes s.system.database run (s.committed index)

/-! ## Which chunks are counted right -/

/-- The chunk that a step of the loop hands to `persistChunk`, if it gets so far. -/
def chunkToPersist (answers : ChunkAnswers) (s : RunState) : Option Chunk :=
  match s.run.outcome, s.run.fetchedBatch with
  | .waiting, head :: _ =>
      match head.outcome with
      | .returned fetched =>
          match (fetchBlocks s.run.options.blockBatchSize (logBlockNumbers fetched.logs)
              answers.blocks).1, readAnchor answers s.run fetched.range with
          | .returned blocks, .ok anchor => some (s.run.chunk fetched blocks anchor)
          | _, _ => none
      | _ => none
  | _, _ => none

/-- A rollback of the chunk leaves nothing counted: it has no logs, or its logs get in and are all
stored already. -/
def Chunk.CountsNothing (fault : Option (PersistStatement × JsError)) (chunk : Chunk)
    (db : Database) : Prop :=
  chunk.logs = [] ∨
    ∃ logs, chunk.GetsIn fault db logs ∧ newRawLogs chunk.chainId chunk.runId logs db = []

instance (fault : Option (PersistStatement × JsError)) (chunk : Chunk) (db : Database) :
    Decidable (chunk.CountsNothing fault db) :=
  have : Decidable (∃ logs, chunk.GetsIn fault db logs ∧
      newRawLogs chunk.chainId chunk.runId logs db = []) :=
    decidable_of_iff' _ (Chunk.exists_mined fun _ getsIn => getsIn.1.mined)
  inferInstanceAs (Decidable (_ ∨ _))

/-- The chunk is counted right, or the run can no more write what it has counted. -/
@[mk_iff] structure Chunk.CountedRight (viem : Viem) (answers : ChunkAnswers) (chunk : Chunk)
    (db : Database) : Prop where
  rolledBack : (¬ ∃ logs, chunk.Commits viem answers.fault db logs) →
    chunk.CountsNothing answers.fault db ∨ answers.handler.updateRun ≠ none
  committed : ∀ logs, chunk.Commits viem answers.fault db logs →
    chunk.DecodesOnce viem db logs ∨
      (answers.updateRun ≠ none ∧ answers.handler.updateRun ≠ none)

instance (viem : Viem) (answers : ChunkAnswers) (chunk : Chunk) (db : Database) :
    Decidable (chunk.CountedRight viem answers db) :=
  decidable_of_iff' _ (Chunk.countedRight_iff viem answers chunk db)

/-- The chunk of a step, if there is one, is counted right. -/
def RunInput.CountsRight (viem : Viem) (s : RunState) : RunInput → Prop
  | .chunk answers => ∀ chunk, chunkToPersist answers s = some chunk →
      chunk.CountedRight viem answers s.database
  | _ => True

instance (viem : Viem) (s : RunState) : (input : RunInput) → Decidable (input.CountsRight viem s)
  | .plan _ | .fetchLogs _ _ _ => isTrue trivial
  | .chunk answers =>
      inferInstanceAs (Decidable (∀ chunk ∈ chunkToPersist answers s,
        chunk.CountedRight viem answers s.database))

/-- **Every chunk on the way is counted right.** -/
def CountsRight (viem : Viem) (input : SystemInput) (s : LedgerState) : Prop :=
  match input with
  | .start _ _ => True
  | .step index input => ∀ run, s.system.runs[index]? = some run →
      input.CountsRight viem ⟨s.system.database, run⟩

instance (viem : Viem) :
    (input : SystemInput) → (s : LedgerState) → Decidable (CountsRight viem input s)
  | .start _ _, _ => isTrue trivial
  | .step index input, s =>
      inferInstanceAs (Decidable (∀ run ∈ s.system.runs[index]?,
        input.CountsRight viem ⟨s.system.database, run⟩))

/-! ## What a step does to the books -/

/-- The counters that describe work; the others count the trouble it took. -/
structure Work where
  chunks : ℕ
  blocksCovered : ℤ
  logsFetched : ℕ
  rawLogsInserted : ℕ
  duplicateRawLogs : ℕ
  eventsDecoded : ℕ

/-- The counters of what has been done. -/
def IngestionCounters.work (counters : IngestionCounters) : Work where
  chunks := counters.chunks
  blocksCovered := counters.blocksCovered
  logsFetched := counters.logsFetched
  rawLogsInserted := counters.rawLogsInserted
  duplicateRawLogs := counters.duplicateRawLogs
  eventsDecoded := counters.eventsDecoded

/-- The run that had these counters is over, and has written its row or not. -/
structure EndsRun (written : Prop) (runId : ℕ) (counters : IngestionCounters) (db : Database)
    (r : RunState) : Prop where
  runId_eq : r.run.runId = runId
  ended : r.run.outcome ≠ .waiting
  writes : written → ∃ status failure, status ≠ .running ∧
    r.database = updateRun runId status counters failure db
  skips : ¬ written → r.database = db

theorem endsRun_handleError (answers : CatchAnswers) (error : JsError) {s : RunState} {runId : ℕ}
    {counters : IngestionCounters} {db : Database} (sameRun : s.run.runId = runId)
    (sameCounters : s.run.counters = counters) (sameDatabase : s.database = db) :
    EndsRun (answers.updateRun = none) runId counters db (handleError answers error s) := by
  subst sameRun sameCounters sameDatabase
  unfold handleError
  cases answers.updateRun with
  | some updateError =>
      exact ⟨rfl, nofun, nofun, fun _ => rfl⟩
  | none =>
      simp only
      split
      · exact ⟨rfl, nofun, fun _ => ⟨.interrupted, none, nofun, rfl⟩,
          fun other => absurd trivial other⟩
      · exact ⟨rfl, nofun, fun _ => ⟨.failed, some error, nofun, rfl⟩,
          fun other => absurd trivial other⟩

/-- What the run counts once the chunk is committed. -/
def countChunk (range : BlockRange) (counters : IngestionCounters) : IngestionCounters :=
  { counters with
    chunks := counters.chunks + 1
    blocksCovered := counters.blocksCovered + range.toBlock - range.fromBlock + 1 }

/-- The counters that a chunk is persisted with. -/
def countFetched (logs : List Log) (counters : IngestionCounters) : IngestionCounters :=
  { counters with logsFetched := counters.logsFetched + logs.length }

/-- **What a step does to the books**: the tables, the row of the run, and its counters. -/
inductive Booked (viem : Viem) (input : RunInput) (s : RunState) : RunState × List BlockRange → Prop
  | quiet (r : RunState) (database : r.database = s.database) (runId : r.run.runId = s.run.runId)
      (work : r.run.counters.work = s.run.counters.work) (outcome : r.run.outcome = s.run.outcome)
      (idle : ∀ answers, input = .chunk answers → chunkToPersist answers s = none) :
      Booked viem input s (r, [])
  | ended (r : RunState) (written : Prop) (counters : IngestionCounters)
      (running : s.run.outcome = .waiting) (work : counters.work = s.run.counters.work)
      (ends : EndsRun written s.run.runId counters s.database r)
      (idle : ∀ answers, input = .chunk answers → chunkToPersist answers s = none) :
      Booked viem input s (r, [])
  | rolledBack (r : RunState) (answers : ChunkAnswers) (chunk : Chunk)
      (counters : IngestionCounters) (asked : input = .chunk answers)
      (running : s.run.outcome = .waiting) (due : chunkToPersist answers s = some chunk)
      (work : counters.work = s.run.counters.work)
      (failed : ¬ ∃ logs, chunk.Commits viem answers.fault s.database logs)
      (ends : EndsRun (answers.handler.updateRun = none) s.run.runId
        (persistChunk viem answers.fault chunk s.database
          (countFetched chunk.logs counters)).memory s.database r) :
      Booked viem input s (r, [])
  | committed (r : RunState) (answers : ChunkAnswers) (chunk : Chunk) (logs : List MinedLog)
      (counters : IngestionCounters) (asked : input = .chunk answers)
      (running : s.run.outcome = .waiting) (due : chunkToPersist answers s = some chunk)
      (work : counters.work = s.run.counters.work)
      (commits : chunk.Commits viem answers.fault s.database logs)
      (persisted : Transaction.Outcome Database IngestionCounters JsError PUnit)
      (written : persisted = persistChunk viem answers.fault chunk s.database
        (countFetched chunk.logs counters))
      (reported : answers.updateRun = none → r.run.outcome = .waiting ∧
        r.run.runId = s.run.runId ∧ r.run.counters = countChunk chunk.range persisted.memory ∧
        r.database = updateRun s.run.runId .running r.run.counters none persisted.database)
      (unreported : answers.updateRun ≠ none → EndsRun (answers.handler.updateRun = none)
        s.run.runId (countChunk chunk.range persisted.memory) persisted.database r) :
      Booked viem input s (r, [chunk.range])

/-- Every way out through the `catch` before a chunk is persisted. -/
theorem Booked.of_handleError {viem : Viem} {input : RunInput} {s s' : RunState}
    (running : s.run.outcome = .waiting)
    (idle : ∀ answers, input = .chunk answers → chunkToPersist answers s = none)
    (answers : CatchAnswers) (error : JsError) (database : s'.database = s.database)
    (runId : s'.run.runId = s.run.runId)
    (work : s'.run.counters.work = s.run.counters.work) :
    Booked viem input s (handleError answers error s', []) :=
  .ended _ _ _ running work (endsRun_handleError answers error runId rfl database) idle

theorem booked_planStep {viem : Viem} (answers : PlanAnswers) {s : RunState}
    (running : s.run.outcome = .waiting) :
    Booked viem (.plan answers) s (planStep answers s, []) := by
  have idle (asked : ChunkAnswers) (same : RunInput.plan answers = .chunk asked) :
      chunkToPersist asked s = none := by cases same
  have handled (error : JsError) :
      Booked viem (.plan answers) s (handleError answers.handler error s, []) :=
    .of_handleError running idle _ _ rfl rfl rfl
  unfold planStep
  simp only
  split
  · split
    · split
      · exact handled _
      · refine .ended _ True _ running rfl ⟨rfl, ?_, ?_, fun other => absurd trivial other⟩ idle
        · rintro ⟨⟩
        · exact fun _ => ⟨.interrupted, none, by decide, rfl⟩
    · split
      · exact handled _
      · exact .quiet _ rfl rfl rfl rfl idle
  · split
    · exact handled _
    · refine .ended _ True _ running rfl ⟨rfl, ?_, ?_, fun other => absurd trivial other⟩ idle
      · rintro ⟨⟩
      · exact fun _ => ⟨.completed, none, by decide, rfl⟩

/-- Fetching logs counts retries and reductions only. -/
theorem work_fetchLogsAttempt (addresses : List String) (policy : RetryPolicy)
    (answer : LogAnswer) (fetch : LogFetch) (counters : IngestionCounters) :
    (fetchLogsAttempt addresses policy answer fetch counters).2.work = counters.work := by
  unfold fetchLogsAttempt
  split
  · rfl
  · rfl
  · split
    · rfl
    · split
      · rfl
      · split
        · rfl
        · simp only
          split
          · rfl
          · split
            · rfl
            · split <;> rfl

theorem work_fetchAt (addresses : List String) (policy : RetryPolicy) (answer : LogAnswer)
    (index : ℕ) (fetches : List LogFetch) (counters : IngestionCounters) :
    (fetchAt addresses policy answer index fetches counters).2.work = counters.work := by
  unfold fetchAt
  split
  · rfl
  · exact work_fetchLogsAttempt _ _ _ _ _

theorem booked_fetchStep {viem : Viem} {dropped : Bool} {index : ℕ} {answer : LogAnswer}
    {s : RunState} :
    Booked viem (.fetchLogs dropped index answer) s (fetchStep dropped index answer s, []) := by
  unfold fetchStep
  cases dropped <;> exact .quiet _ rfl rfl (work_fetchAt _ _ _ _ _ _) rfl nofun

theorem chunkToPersist_eq (answers : ChunkAnswers) {head : LogFetch} {rest : List LogFetch}
    {fetched : FetchedLogs} {s : RunState} (running : s.run.outcome = .waiting)
    (batch : s.run.fetchedBatch = head :: rest) (returned : head.outcome = .returned fetched) :
    chunkToPersist answers s
      = match (fetchBlocks s.run.options.blockBatchSize (logBlockNumbers fetched.logs)
            answers.blocks).1, readAnchor answers s.run fetched.range with
        | .returned blocks, .ok anchor => some (s.run.chunk fetched blocks anchor)
        | _, _ => none := by
  simp only [chunkToPersist, running, batch, returned]

theorem booked_chunkStep {viem : Viem} {answers : ChunkAnswers} {head : LogFetch}
    {rest : List LogFetch} {fetched : FetchedLogs} {s : RunState}
    (running : s.run.outcome = .waiting) (batch : s.run.fetchedBatch = head :: rest)
    (returned : head.outcome = .returned fetched) :
    Booked viem (.chunk answers) s (chunkStep viem answers head.planned fetched rest s) := by
  have due := chunkToPersist_eq answers running batch returned
  have idle (nothing : chunkToPersist answers s = none) :
      ∀ answers', RunInput.chunk answers = .chunk answers' → chunkToPersist answers' s = none := by
    rintro _ ⟨⟩
    exact nothing
  -- the counters the chunk is persisted with, but for the fetched logs
  let retried : IngestionCounters := { s.run.counters with
    rpcRetries := s.run.counters.rpcRetries + (fetchBlocks s.run.options.blockBatchSize
      (logBlockNumbers fetched.logs) answers.blocks).2 }
  unfold chunkStep
  simp only
  split
  · rename_i waiting
    exact .quiet s rfl rfl rfl rfl (idle (by rw [due, waiting]))
  · rename_i error threw
    refine .of_handleError running (idle (by rw [due, threw])) _ _ ?_ ?_ ?_
    all_goals rfl
  · rename_i blocks fetchedBlocks
    split
    · rename_i error failed
      have failed' : readAnchor answers s.run fetched.range = .error error := failed
      refine .of_handleError running (idle (by rw [due, fetchedBlocks, failed'])) _ _ ?_ ?_ ?_
      all_goals rfl
    · rename_i anchor anchored
      have anchored' : readAnchor answers s.run fetched.range = .ok anchor := anchored
      rw [fetchedBlocks, anchored'] at due
      split
      · rename_i error failed
        have database := persistChunk_rolledBack failed
        refine .rolledBack _ answers _ retried rfl running due rfl ?_ ?_
        · rw [← persistChunk_result_ok_iff]
          intro committed
          cases failed.symm.trans committed
        · exact endsRun_handleError _ _ rfl rfl database
      · rename_i commit
        obtain ⟨logs, commits⟩ := persistChunk_result_ok_iff.mp commit
        split
        · rename_i error unreported
          refine .committed _ answers _ logs retried rfl running due rfl commits _ rfl
            (fun reported => ?_) (fun _ => endsRun_handleError _ _ rfl rfl rfl)
          cases unreported.symm.trans reported
        · rename_i reported
          exact .committed _ answers _ logs retried rfl running due rfl commits _ rfl
            (fun _ => ⟨running, rfl, rfl, rfl⟩) (fun unreported => absurd reported unreported)

/-- **Every step is booked.** -/
theorem booked_advance (viem : Viem) (input : RunInput) (s : RunState) :
    Booked viem input s (advance viem input s) := by
  unfold advance
  split
  · rename_i ended
    split
    · exact booked_fetchStep
    · refine .quiet s rfl rfl rfl rfl ?_
      rintro answers rfl
      simp only [chunkToPersist, ended]
  · rename_i ended
    split
    · exact booked_fetchStep
    · refine .quiet s rfl rfl rfl rfl ?_
      rintro answers rfl
      simp only [chunkToPersist, ended]
  · rename_i running
    split
    · split
      · exact booked_planStep _ running
      · exact .quiet s rfl rfl rfl rfl nofun
    · exact booked_fetchStep
    · rename_i answers
      split
      · rename_i empty
        refine .quiet s rfl rfl rfl rfl ?_
        rintro _ ⟨⟩
        simp only [chunkToPersist, running, empty]
      · rename_i head rest batch
        split
        · rename_i waiting
          refine .quiet s rfl rfl rfl rfl ?_
          rintro _ ⟨⟩
          simp only [chunkToPersist, running, batch, waiting]
        · rename_i error threw
          refine .of_handleError running ?_ _ _ rfl rfl rfl
          rintro _ ⟨⟩
          simp only [chunkToPersist, running, batch, threw]
        · rename_i fetched returned
          exact booked_chunkStep running batch returned

/-! ## Counting a chunk -/

section Chunk

variable {viem : Viem} {fault : Option (PersistStatement × JsError)} {chunk : Chunk}
  {db : Database} {counters counters' : IngestionCounters} {committed : List CommittedChunk}
  {logs : List MinedLog}

theorem IngestionCounters.Tallies.congr (tallies : counters.Tallies committed)
    (same : counters.work = counters'.work) : counters'.Tallies committed := by
  simp only [IngestionCounters.work, Work.mk.injEq] at same
  obtain ⟨chunks, blocks, fetched, rawLogs, duplicates, -⟩ := same
  exact ⟨by rw [← fetched, ← rawLogs, ← duplicates]; exact tallies.fetched,
    rawLogs ▸ tallies.rawLogs, chunks ▸ tallies.chunks, blocks ▸ tallies.blocks⟩

theorem IngestionCounters.Tallies.describes_iff (tallies : counters.Tallies committed) :
    counters.Describes committed
      ↔ counters.eventsDecoded = (committed.map CommittedChunk.protocolEvents).sum :=
  ⟨fun describes => describes.events, fun exactly => ⟨tallies, exactly⟩⟩

theorem events_congr (same : counters.work = counters'.work) :
    counters.eventsDecoded = counters'.eventsDecoded :=
  congrArg Work.eventsDecoded same

theorem length_mined (mined : chunk.logs.mapM Log.mined = .ok logs) :
    chunk.logs.length = logs.length :=
  (FailingFold.mapM_eq_ok.mp mined).length_eq

theorem length_newRawLogs_le (db : Database) (chunk : Chunk) (logs : List MinedLog) :
    (newRawLogs chunk.chainId chunk.runId logs db).length ≤ logs.length := by
  have proposed : ∀ id : ℕ,
      (rawLogRows chunk.chainId chunk.runId id logs).length = logs.length := by
    induction logs with
    | nil => intro id; rfl
    | cons log logs ih => intro id; rw [rawLogRows, List.length_cons, ih, List.length_cons]
  rw [← proposed db.rawLogSequence]
  exact (fresh_sublist RawLogRow.key _ _).length_le

theorem decoded_eq_nil (none : newRawLogs chunk.chainId chunk.runId logs db = []) :
    (chunk.decoded viem db logs).1 = [] := by
  refine List.eq_nil_iff_forall_not_mem.mpr fun event mem => ?_
  obtain ⟨log, -, row, found, -⟩ := mem_decodeInserted.mp mem
  have new := (insertedRow_eq_some found).1
  rw [none] at new
  exact absurd new List.not_mem_nil

theorem countsNothing_iff (getsIn : chunk.GetsIn fault db logs) :
    chunk.CountsNothing fault db ↔ newRawLogs chunk.chainId chunk.runId logs db = [] := by
  constructor
  · rintro (empty | ⟨logs', getsIn', none⟩)
    · have short := length_newRawLogs_le db chunk logs
      rw [← length_mined getsIn.mined, empty] at short
      exact List.length_eq_zero_iff.mp (Nat.le_zero.mp short)
    · have same := getsIn'.mined.symm.trans getsIn.mined
      cases same
      exact none
  · intro none
    exact .inr ⟨logs, getsIn, none⟩

/-- **What a rollback leaves counted.**  The counters still describe the chunks that are committed
exactly if they did and there was nothing in the chunk to count. -/
theorem describes_memory_iff (tallies : counters.Tallies committed)
    (atLeast : (committed.map CommittedChunk.protocolEvents).sum ≤ counters.eventsDecoded) :
    (persistChunk viem fault chunk db (countFetched chunk.logs counters)).memory.Describes committed
      ↔ counters.eventsDecoded = (committed.map CommittedChunk.protocolEvents).sum ∧
        chunk.CountsNothing fault db := by
  obtain ⟨fetched, rawLogs, chunks, blocks⟩ := tallies
  by_cases getsIn : ∃ logs, chunk.GetsIn fault db logs
  · obtain ⟨logs, getsIn⟩ := getsIn
    obtain ⟨events, memory, either⟩ := @memory_persistChunk_of_getsIn viem fault chunk db
      (countFetched chunk.logs counters) logs getsIn
    have short := length_newRawLogs_le db chunk logs
    have mined := length_mined getsIn.mined
    rw [memory, countsNothing_iff getsIn]
    simp only [countEvents, countLogs, countFetched]
    constructor
    · rintro ⟨⟨-, counted, -, -⟩, decoded⟩
      simp only at counted decoded
      exact ⟨by omega, List.length_eq_zero_iff.mp (by omega)⟩
    · rintro ⟨exactly, none⟩
      have undecoded : events = [] := by
        rcases either with empty | all
        · exact empty
        · exact all.trans (decoded_eq_nil none)
      rw [none] at short ⊢
      rw [undecoded]
      simp only [List.length_nil] at short ⊢
      exact ⟨⟨by simp only; omega, by simp only; omega, chunks, blocks⟩, by simp only; omega⟩
  · rw [memory_persistChunk_of_rejected getsIn]
    have nothing : chunk.CountsNothing fault db ↔ chunk.logs.length = 0 := by
      rw [List.length_eq_zero_iff]
      exact or_iff_left fun ⟨logs, inserted, _⟩ => getsIn ⟨logs, inserted⟩
    rw [nothing]
    constructor
    · rintro ⟨⟨counted, -, -, -⟩, decoded⟩
      simp only [countFetched] at counted decoded
      exact ⟨decoded, by omega⟩
    · rintro ⟨exactly, empty⟩
      exact ⟨⟨by simp only [countFetched]; omega, rawLogs, chunks, blocks⟩, exactly⟩

/-- What the run counts of a chunk that commits. -/
def countCommitted (viem : Viem) (chunk : Chunk) (db : Database) (logs : List MinedLog)
    (counters : IngestionCounters) : IngestionCounters :=
  countChunk chunk.range (countEvents (chunk.decoded viem db logs).1
    (countLogs logs (newRawLogs chunk.chainId chunk.runId logs db)
      (chunk.decoded viem db logs).2 (countFetched chunk.logs counters)))

/-- The rows that a chunk adds. -/
theorem between_writeChunk (viem : Viem) (chunk : Chunk) (db : Database) (logs : List MinedLog) :
    CommittedChunk.between db (writeChunk viem chunk logs (chunk.withBlocks db)) chunk.range
      = ⟨chunk.range, (newRawLogs chunk.chainId chunk.runId logs db).length,
        (fresh ProtocolEventRow.rawLogId db.protocolEvents
          (chunk.decoded viem db logs).1).length⟩ := by
  have rawLogs : (writeChunk viem chunk logs (chunk.withBlocks db)).rawLogs
      = db.rawLogs ++ newRawLogs chunk.chainId chunk.runId logs db := rfl
  have events : (writeChunk viem chunk logs (chunk.withBlocks db)).protocolEvents
      = db.protocolEvents ++ fresh ProtocolEventRow.rawLogId db.protocolEvents
        (chunk.decoded viem db logs).1 := rfl
  rw [CommittedChunk.between, rawLogs, events, List.length_append, List.length_append,
    Nat.add_sub_cancel_left, Nat.add_sub_cancel_left]

/-- **What a commit leaves counted**: the chunk, and events that are not there if a new log
decodes twice. -/
theorem counts_of_commits (commits : chunk.Commits viem fault db logs)
    (tallies : counters.Tallies committed)
    (atLeast : (committed.map CommittedChunk.protocolEvents).sum ≤ counters.eventsDecoded)
    (numbered : ∀ event ∈ db.protocolEvents, event.rawLogId < db.rawLogSequence) :
    let committed' := committed ++
      [.between db (writeChunk viem chunk logs (chunk.withBlocks db)) chunk.range]
    (countCommitted viem chunk db logs counters).Tallies committed' ∧
      (committed'.map CommittedChunk.protocolEvents).sum
        ≤ (countCommitted viem chunk db logs counters).eventsDecoded ∧
      ((countCommitted viem chunk db logs counters).eventsDecoded
          = (committed'.map CommittedChunk.protocolEvents).sum
        ↔ counters.eventsDecoded = (committed.map CommittedChunk.protocolEvents).sum ∧
          chunk.DecodesOnce viem db logs) := by
  obtain ⟨fetched, rawLogs, chunks, blocks⟩ := tallies
  have short := length_newRawLogs_le db chunk logs
  have mined := length_mined commits.getsIn.mined
  have fewer := (fresh_sublist ProtocolEventRow.rawLogId (chunk.decoded viem db logs).1
    db.protocolEvents).length_le
  have all := @length_fresh_decoded_iff viem chunk db logs numbered
  simp only [between_writeChunk, List.map_append, List.sum_append, List.map_cons, List.map_nil,
    List.sum_singleton, ← all]
  simp only [countCommitted, countChunk, countEvents, countLogs, countFetched]
  refine ⟨⟨by simp only; omega, ?_, ?_, ?_⟩, by omega, by omega⟩
  · simp only [List.map_append, List.sum_append, List.map_cons, List.map_nil, List.sum_singleton]
    omega
  · simp only [List.length_append, List.length_singleton]
    omega
  · simp only [List.map_append, List.sum_append, List.map_cons, List.map_nil, List.sum_singleton]
    omega

end Chunk

/-! ## The row of a run -/

section Rows

variable {db : Database} {run : IngestRun} {committed : List CommittedChunk} {row : IndexerRunRow}

/-- The row as `updateRun` leaves it. -/
def IndexerRunRow.updated (status : IndexerRunStatus) (counters : IngestionCounters)
    (failure : Option JsError) (row : IndexerRunRow) : IndexerRunRow :=
  { row with
    status := status
    counters := counters
    failure := failure.map providerErrorMessage }

theorem runRow_updateRun (runId : ℕ) (status : IndexerRunStatus) (counters : IngestionCounters)
    (failure : Option JsError) (db : Database) (k : ℕ) :
    (updateRun runId status counters failure db).runRow k
      = (db.runRow k).map fun row =>
          if row.id = runId then row.updated status counters failure else row := by
  refine lookup_map IndexerRunRow.id (fun row => ?_) db.runs k
  split <;> rfl

theorem runRow_updateRun_self {runId : ℕ} {status : IndexerRunStatus}
    {counters : IngestionCounters} {failure : Option JsError}
    (found : db.runRow runId = some row) :
    (updateRun runId status counters failure db).runRow runId
      = some (row.updated status counters failure) := by
  have same : row.id = runId := key_eq_of_lookup IndexerRunRow.id found
  rw [runRow_updateRun, found, Option.map_some, if_pos same]

theorem runRow_updateRun_of_ne {runId k : ℕ} {status : IndexerRunStatus}
    {counters : IngestionCounters} {failure : Option JsError} (other : k ≠ runId) :
    (updateRun runId status counters failure db).runRow k = db.runRow k := by
  rw [runRow_updateRun]
  cases found : db.runRow k with
  | none => rfl
  | some row =>
      have same : row.id = k := key_eq_of_lookup IndexerRunRow.id found
      rw [Option.map_some, if_neg (same ▸ other)]

/-- A row that is up to date describes everything. -/
theorem rowDescribes_of_current (found : db.runRow run.runId = some row)
    (current : run.outcome = .waiting ∨ row.status ≠ .running) :
    RowDescribes db run committed ↔ row.counters.Describes committed := by
  constructor
  · rintro ⟨other, found', describes, all⟩
    obtain rfl := Option.some.inj (found.symm.trans found')
    rw [all current, List.take_length] at describes
    exact describes
  · intro describes
    refine ⟨row, found, ?_, fun _ => describes.chunks⟩
    rw [describes.chunks, List.take_length]
    exact describes

/-- A row that the run could not update describes what it counts. -/
theorem rowDescribes_of_stale (found : db.runRow run.runId = some row)
    (ended : run.outcome ≠ .waiting) (stale : row.status = .running) :
    RowDescribes db run committed
      ↔ row.counters.Describes (committed.take row.counters.chunks) := by
  constructor
  · rintro ⟨other, found', describes, -⟩
    obtain rfl := Option.some.inj (found.symm.trans found')
    exact describes
  · intro describes
    refine ⟨row, found, describes, ?_⟩
    rintro (waiting | written)
    · exact absurd waiting ended
    · exact absurd stale written

/-- The books of a run that is not over: its row has the counters it works with, and they agree
with the ledger, but there may be too many events. -/
structure Books (db : Database) (run : IngestRun) (committed : List CommittedChunk)
    (row : IndexerRunRow) : Prop where
  found : db.runRow run.runId = some row
  running : row.status = .running
  work : row.counters.work = run.counters.work
  tallies : run.counters.Tallies committed
  atLeast : (committed.map CommittedChunk.protocolEvents).sum ≤ run.counters.eventsDecoded

/-- A run that is not over is in the books. -/
def InBooks (db : Database) (run : IngestRun) (committed : List CommittedChunk) : Prop :=
  run.outcome = .waiting → ∃ row, Books db run committed row

theorem Books.describes_iff (books : Books db run committed row) {counters : IngestionCounters}
    (same : counters.work = run.counters.work) :
    counters.Describes committed
      ↔ run.counters.eventsDecoded = (committed.map CommittedChunk.protocolEvents).sum := by
  rw [(books.tallies.congr same.symm).describes_iff, events_congr same]

theorem Books.rowDescribes_iff (books : Books db run committed row)
    (running : run.outcome = .waiting) :
    RowDescribes db run committed
      ↔ run.counters.eventsDecoded = (committed.map CommittedChunk.protocolEvents).sum := by
  rw [rowDescribes_of_current books.found (.inl running), books.describes_iff books.work]

end Rows

/-! ## One step -/

section Step

variable {viem : Viem} {input : RunInput} {s : RunState} {r : RunState × List BlockRange}
  {committed : List CommittedChunk} {row : IndexerRunRow}

/-- The row of a run that has ended describes what its last counters describe, if they are
written, or else what it described before. -/
theorem EndsRun.rowDescribes_iff {written : Prop} {counters : IngestionCounters} {db : Database}
    {after : RunState} {more : List CommittedChunk}
    (ends : EndsRun written s.run.runId counters db after)
    (books : Books s.database s.run committed row) (rows : db.runs = s.database.runs) :
    RowDescribes after.database after.run (committed ++ more)
      ↔ (written ∧ counters.Describes (committed ++ more)) ∨
        (¬ written ∧ row.counters.Describes committed) := by
  have found : db.runRow s.run.runId = some row := by
    rw [Database.runRow, rows]
    exact books.found
  by_cases wrote : written
  · obtain ⟨status, failure, ended, database⟩ := ends.writes wrote
    have updated : after.database.runRow after.run.runId
        = some (row.updated status counters failure) := by
      rw [database, ends.runId_eq]
      exact runRow_updateRun_self found
    rw [rowDescribes_of_current updated (.inr ended)]
    simp [wrote, IndexerRunRow.updated]
  · have kept : after.database.runRow after.run.runId = some row := by
      rw [ends.skips wrote, ends.runId_eq]
      exact found
    have counted : row.counters.chunks = committed.length :=
      (books.tallies.congr books.work.symm).chunks
    rw [rowDescribes_of_stale kept ends.ended books.running, counted, List.take_left' rfl]
    simp [wrote]

theorem EndsRun.between_eq {written : Prop} {runId : ℕ} {counters : IngestionCounters}
    {db : Database} {after : RunState} (ends : EndsRun written runId counters db after)
    (before : Database) (range : BlockRange) :
    CommittedChunk.between before after.database range = .between before db range := by
  by_cases wrote : written
  · obtain ⟨status, failure, -, database⟩ := ends.writes wrote
    rw [database]
    rfl
  · rw [ends.skips wrote]

theorem countsRight_of_idle
    (idle : ∀ answers, input = .chunk answers → chunkToPersist answers s = none) :
    input.CountsRight viem s := by
  cases input with
  | chunk answers =>
      intro chunk due
      rw [idle answers rfl] at due
      cases due
  | _ => trivial

theorem countsRight_iff {answers : ChunkAnswers} {chunk : Chunk}
    (due : chunkToPersist answers s = some chunk) :
    (RunInput.chunk answers).CountsRight viem s ↔ chunk.CountedRight viem answers s.database := by
  constructor
  · intro right
    exact right chunk due
  · intro right other due'
    obtain rfl := Option.some.inj (due.symm.trans due')
    exact right

theorem countedRight_of_rolledBack {answers : ChunkAnswers} {chunk : Chunk} {db : Database}
    (failed : ¬ ∃ logs, chunk.Commits viem answers.fault db logs) :
    chunk.CountedRight viem answers db
      ↔ chunk.CountsNothing answers.fault db ∨ answers.handler.updateRun ≠ none :=
  ⟨fun right => right.rolledBack failed,
    fun right => ⟨fun _ => right, fun logs commits => absurd ⟨logs, commits⟩ failed⟩⟩

theorem countedRight_of_commits {answers : ChunkAnswers} {chunk : Chunk} {db : Database}
    {logs : List MinedLog} (commits : chunk.Commits viem answers.fault db logs) :
    chunk.CountedRight viem answers db
      ↔ chunk.DecodesOnce viem db logs ∨
        (answers.updateRun ≠ none ∧ answers.handler.updateRun ≠ none) := by
  refine ⟨fun right => right.committed logs commits,
    fun right => ⟨fun failed => absurd ⟨logs, commits⟩ failed, fun other commits' => ?_⟩⟩
  have same := commits'.getsIn.mined.symm.trans commits.getsIn.mined
  cases same
  exact right

/-- **One step keeps the books.** -/
theorem Booked.inBooks (booked : Booked viem input s r)
    (books : InBooks s.database s.run committed)
    (numbered : ∀ event ∈ s.database.protocolEvents, event.rawLogId < s.database.rawLogSequence) :
    InBooks r.1.database r.1.run
      (committed ++ r.2.map (CommittedChunk.between s.database r.1.database)) := by
  cases booked with
  | quiet r database runId work outcome =>
      intro running
      obtain ⟨row, books⟩ := books (outcome.symm.trans running)
      rw [List.map_nil, List.append_nil, database]
      exact ⟨row, runId ▸ books.found, books.running, books.work.trans work.symm,
        books.tallies.congr work.symm, events_congr work ▸ books.atLeast⟩
  | ended r written counters running work ends => exact fun waiting => absurd waiting ends.ended
  | rolledBack r answers chunk counters asked running due work failed ends =>
      exact fun waiting => absurd waiting ends.ended
  | committed r answers chunk logs counters asked running due work commits persisted written
      reported unreported =>
      intro waiting
      have reports : answers.updateRun = none := by
        by_contra fails
        exact (unreported fails).ended waiting
      obtain ⟨row, books⟩ := books running
      obtain ⟨-, runId, counted, database⟩ := reported reports
      rw [persistChunk_of_commits commits] at written
      subst written
      have tables : CommittedChunk.between s.database r.database chunk.range
          = .between s.database (writeChunk viem chunk logs (chunk.withBlocks s.database))
            chunk.range := by
        rw [database]
        rfl
      obtain ⟨tallies, atLeast, -⟩ := counts_of_commits commits
        (books.tallies.congr work.symm) (events_congr work ▸ books.atLeast) numbered
      rw [List.map_singleton, tables]
      refine ⟨row.updated .running r.run.counters none, ?_, rfl, rfl, counted ▸ tallies,
        counted ▸ atLeast⟩
      rw [database, runId]
      exact runRow_updateRun_self books.found

/-- **When one step keeps the row of its run right.** -/
theorem Booked.rowDescribes_iff (booked : Booked viem input s r)
    (books : InBooks s.database s.run committed)
    (numbered : ∀ event ∈ s.database.protocolEvents, event.rawLogId < s.database.rawLogSequence) :
    RowDescribes r.1.database r.1.run
        (committed ++ r.2.map (CommittedChunk.between s.database r.1.database))
      ↔ RowDescribes s.database s.run committed ∧ input.CountsRight viem s := by
  cases booked with
  | quiet r database runId work outcome idle =>
      rw [and_iff_left (countsRight_of_idle idle), List.map_nil, List.append_nil]
      unfold RowDescribes
      rw [database, runId, outcome]
  | ended r written counters running work ends idle =>
      obtain ⟨row, books⟩ := books running
      rw [and_iff_left (countsRight_of_idle idle), List.map_nil, ends.rowDescribes_iff books rfl,
        List.append_nil, books.describes_iff work, books.describes_iff books.work,
        books.rowDescribes_iff running, ← or_and_right, and_iff_right (em written)]
  | rolledBack r answers chunk counters asked running due work failed ends =>
      subst asked
      obtain ⟨row, books⟩ := books running
      rw [countsRight_iff due, countedRight_of_rolledBack failed, List.map_nil,
        ends.rowDescribes_iff books rfl, List.append_nil,
        describes_memory_iff (books.tallies.congr work.symm)
          (events_congr work ▸ books.atLeast), events_congr work,
        books.describes_iff books.work, books.rowDescribes_iff running]
      by_cases stuck : answers.handler.updateRun = none
      · simp [stuck]
      · simp [stuck]
  | committed r answers chunk logs counters asked running due work commits persisted written
      reported unreported =>
      subst asked
      obtain ⟨row, books⟩ := books running
      rw [persistChunk_of_commits commits] at written
      subst written
      obtain ⟨tallies, -, exactly⟩ := counts_of_commits commits
        (books.tallies.congr work.symm) (events_congr work ▸ books.atLeast) numbered
      rw [events_congr work] at exactly
      rw [countsRight_iff due, countedRight_of_commits commits, books.rowDescribes_iff running,
        List.map_singleton]
      by_cases reports : answers.updateRun = none
      · obtain ⟨waiting, runId, counted, database⟩ := reported reports
        have tables : CommittedChunk.between s.database r.database chunk.range
            = .between s.database (writeChunk viem chunk logs (chunk.withBlocks s.database))
              chunk.range := by
          rw [database]
          rfl
        have found : r.database.runRow r.run.runId
            = some (row.updated .running r.run.counters none) := by
          rw [database, runId]
          exact runRow_updateRun_self books.found
        have updated : (row.updated .running r.run.counters none).counters
            = countCommitted viem chunk s.database logs counters := counted
        rw [tables, rowDescribes_of_current found (.inl waiting), updated,
          tallies.describes_iff, exactly]
        simp [reports]
      · have ends := unreported reports
        have describes := tallies.describes_iff
        rw [ends.between_eq, ends.rowDescribes_iff books rfl, books.describes_iff books.work]
        have written : (countChunk chunk.range _).Describes _ ↔ _ := describes.trans exactly
        rw [written]
        by_cases stuck : answers.handler.updateRun = none
        · simp [stuck]
        · simp [stuck, reports]

/-- A step keeps the tables, or writes a chunk; and then it may update the row of its run. -/
theorem Booked.database_eq (booked : Booked viem input s r) :
    ∃ db, (db = s.database ∨
        ∃ chunk logs, db = writeChunk viem chunk logs (chunk.withBlocks s.database)) ∧
      (r.1.database = db ∨ ∃ status counters failure,
        r.1.database = updateRun s.run.runId status counters failure db) := by
  have ended {written : Prop} {counters : IngestionCounters} {db : Database} {after : RunState}
      (ends : EndsRun written s.run.runId counters db after) :
      after.database = db ∨ ∃ status counters failure,
        after.database = updateRun s.run.runId status counters failure db := by
    by_cases wrote : written
    · obtain ⟨status, failure, -, database⟩ := ends.writes wrote
      exact .inr ⟨status, counters, failure, database⟩
    · exact .inl (ends.skips wrote)
  cases booked with
  | quiet r database => exact ⟨_, .inl rfl, .inl database⟩
  | ended r written counters running work ends => exact ⟨_, .inl rfl, ended ends⟩
  | rolledBack r answers chunk counters asked running due work failed ends =>
      exact ⟨_, .inl rfl, ended ends⟩
  | committed r answers chunk logs counters asked running due work commits persisted written
      reported unreported =>
      rw [persistChunk_of_commits commits] at written
      subst written
      refine ⟨_, .inr ⟨chunk, logs, rfl⟩, ?_⟩
      by_cases reports : answers.updateRun = none
      · obtain ⟨-, -, -, database⟩ := reported reports
        exact .inr ⟨_, _, _, database⟩
      · exact ended (unreported reports)

theorem Booked.runId_eq (booked : Booked viem input s r) : r.1.run.runId = s.run.runId := by
  cases booked with
  | quiet r database runId => exact runId
  | ended r written counters running work ends => exact ends.runId_eq
  | rolledBack r answers chunk counters asked running due work failed ends => exact ends.runId_eq
  | committed r answers chunk logs counters asked running due work commits persisted written
      reported unreported =>
      by_cases reports : answers.updateRun = none
      · exact (reported reports).2.1
      · exact (unreported reports).runId_eq

/-- A step leaves the rows of other runs alone. -/
theorem Booked.runRow_of_ne (booked : Booked viem input s r) {k : ℕ} (other : k ≠ s.run.runId) :
    r.1.database.runRow k = s.database.runRow k := by
  obtain ⟨db, tables, database⟩ := booked.database_eq
  have rows : db.runRow k = s.database.runRow k := by
    rcases tables with rfl | ⟨chunk, logs, rfl⟩ <;> rfl
  rcases database with same | ⟨status, counters, failure, updated⟩
  · rw [same, rows]
  · rw [updated, runRow_updateRun_of_ne other, rows]

end Step

/-! ## Numbers -/

/-- Events belong to raw logs that have drawn their number, and so have the runs. -/
structure Database.Numbered (db : Database) : Prop where
  events : ∀ event ∈ db.protocolEvents, event.rawLogId < db.rawLogSequence
  runs : ∀ row ∈ db.runs, row.id < db.runs.length

theorem Database.Numbered.updateRun {db : Database} (numbered : db.Numbered) (runId : ℕ)
    (status : IndexerRunStatus) (counters : IngestionCounters) (failure : Option JsError) :
    (updateRun runId status counters failure db).Numbered := by
  refine ⟨numbered.events, fun row mem => ?_⟩
  obtain ⟨old, hold, rfl⟩ := List.mem_map.mp mem
  rw [UsdpIndexer.updateRun, List.length_map]
  have below := numbered.runs old hold
  split <;> exact below

theorem Database.Numbered.writeChunk {db : Database} (numbered : db.Numbered) (viem : Viem)
    (chunk : Chunk) (logs : List MinedLog) :
    (writeChunk viem chunk logs (chunk.withBlocks db)).Numbered := by
  refine ⟨fun event mem => ?_, numbered.runs⟩
  have sequence : (UsdpIndexer.writeChunk viem chunk logs (chunk.withBlocks db)).rawLogSequence
      = db.rawLogSequence + logs.length := rfl
  rw [sequence]
  rcases (mem_insertNew ProtocolEventRow.rawLogId).mp mem with old | new
  · have before := numbered.events event old
    omega
  · obtain ⟨log, -, row, found, decoded, -, rfl⟩ := mem_decodeInserted.mp (mem_of_mem_fresh _ new)
    exact (exists_log_of_mem_newRawLogs (insertedRow_eq_some found).1).2.1

theorem Booked.numbered {viem : Viem} {input : RunInput} {s : RunState}
    {r : RunState × List BlockRange} (booked : Booked viem input s r)
    (numbered : s.database.Numbered) :
    r.1.database.Numbered ∧ r.1.database.runs.length = s.database.runs.length := by
  obtain ⟨db, tables, database⟩ := booked.database_eq
  have written : db.Numbered ∧ db.runs.length = s.database.runs.length := by
    rcases tables with rfl | ⟨chunk, logs, rfl⟩
    · exact ⟨numbered, rfl⟩
    · exact ⟨numbered.writeChunk viem chunk logs, rfl⟩
  rcases database with same | ⟨status, counters, failure, updated⟩
  · rw [same]
    exact written
  · rw [updated]
    exact ⟨written.1.updateRun _ _ _ _, (List.length_map _).trans written.2⟩

/-- The row of a new run is found, and the rows of the others still are. -/
theorem runRow_insertRun {db : Database} (numbered : db.Numbered) (options : IngestLogsOptions)
    (nextBlock : ℤ) :
    ∃ row, (insertRun options nextBlock db).runRow db.runs.length = some row ∧
      row.status = .running ∧ row.counters = blankCounters ∧
      ∀ k ≠ db.runs.length, (insertRun options nextBlock db).runRow k = db.runRow k := by
  refine ⟨⟨db.runs.length, options.chainId, nextBlock, options.toBlock, .running, blankCounters,
    none⟩, ?_, rfl, rfl, fun k other => ?_⟩
  · have absent : db.runRow db.runs.length = none := by
      refine (lookup_eq_none_iff IndexerRunRow.id).mpr fun mem => ?_
      obtain ⟨row, hrow, same⟩ := List.mem_map.mp mem
      have below := numbered.runs row hrow
      omega
    refine List.find?_append.trans ?_
    rw [← lookup, ← Database.runRow, absent, Option.none_or, List.find?_singleton]
    simp
  · refine List.find?_append.trans ?_
    rw [List.find?_singleton, if_neg (by simpa using Ne.symm other), Option.or_none]
    rfl

theorem Database.Numbered.insertRun {db : Database} (numbered : db.Numbered)
    (options : IngestLogsOptions) (nextBlock : ℤ) : (insertRun options nextBlock db).Numbered := by
  refine ⟨numbered.events, fun row mem => ?_⟩
  rw [UsdpIndexer.insertRun, List.length_append, List.length_singleton]
  rcases List.mem_append.mp mem with old | new
  · have below := numbered.runs row old
    omega
  · obtain rfl := List.mem_singleton.mp new
    exact Nat.lt_succ_self _

/-! ## All runs -/

/-- What a step of the system does to the ledger: nothing, a new run without entries, or the
entries of one step of one run. -/
theorem ledgerStep_spec (viem : Viem) (input : SystemInput) (s : LedgerState) :
    (CountsRight viem input s ∧ (ledgerStep viem input s).1 = s) ∨
    (∃ options nextBlock finalizedHead, CountsRight viem input s ∧ (ledgerStep viem input s).1
      = ⟨⟨insertRun options nextBlock s.system.database, s.system.runs ++
          [.start options finalizedHead s.system.database.runs.length nextBlock]⟩, s.ledger⟩) ∨
    (∃ index runInput run r, input = .step index runInput ∧ s.system.runs[index]? = some run ∧
      Booked viem runInput ⟨s.system.database, run⟩ r ∧ (ledgerStep viem input s).1
        = ⟨⟨r.1.database, s.system.runs.set index r.1.run⟩, s.ledger ++ r.2.map fun range =>
            (index, .between s.system.database r.1.database range)⟩) := by
  unfold ledgerStep
  cases input with
  | start options answers =>
      unfold systemStep
      rcases startIngest_spec options answers s.system.database with ⟨error, threw⟩ |
        ⟨progress, noop, -⟩ | ⟨finalizedHead, -, -, -, running⟩
      · simp only [threw, List.filterMap_nil, List.append_nil]
        exact .inl ⟨trivial, trivial⟩
      · simp only [noop, List.filterMap_nil, List.append_nil]
        exact .inl ⟨trivial, trivial⟩
      · simp only [running]
        refine .inr (.inl ⟨options,
          resumeBlock options (s.system.database.checkpoint options.chainId options.scope),
          finalizedHead, trivial, ?_⟩)
        simp [SystemEvent.entry]
  | step index runInput =>
      unfold systemStep
      simp only
      split
      · rename_i absent
        refine .inl ⟨fun run found => ?_, by rw [List.filterMap_nil, List.append_nil]⟩
        rw [absent] at found
        cases found
      · rename_i run found
        refine .inr (.inr ⟨index, runInput, run, _, rfl, found, booked_advance viem runInput _, ?_⟩)
        rw [List.filterMap_map]
        refine congrArg (fun entries => LedgerState.mk _ (s.ledger ++ entries)) ?_
        exact congrFun List.filterMap_eq_map' _

/-- What the steps of the system keep. -/
structure LedgerInvariant (s : LedgerState) : Prop where
  numbered : s.system.database.Numbered
  runIds : ∀ (index : ℕ) (run : IngestRun), s.system.runs[index]? = some run →
    run.runId < s.system.database.runs.length
  distinct : ∀ (index index' : ℕ) (run run' : IngestRun), s.system.runs[index]? = some run →
    s.system.runs[index']? = some run' → run.runId = run'.runId → index = index'
  entries : ∀ entry ∈ s.ledger, entry.1 < s.system.runs.length
  books : ∀ index run, s.system.runs[index]? = some run →
    InBooks s.system.database run (s.committed index)

theorem LedgerInvariant.start {db : Database} (numbered : db.Numbered) :
    LedgerInvariant (.start db) := by
  have nobody (index : ℕ) (run : IngestRun) :
      (LedgerState.start db).system.runs[index]? ≠ some run := by
    simp [LedgerState.start]
  exact ⟨numbered, fun index run found => absurd found (nobody index run),
    fun index _ run _ found _ _ => absurd found (nobody index run),
    fun entry mem => absurd mem List.not_mem_nil,
    fun index run found => absurd found (nobody index run)⟩

theorem RowDescribes.congr {db db' : Database} {run : IngestRun} {committed : List CommittedChunk}
    (same : db'.runRow run.runId = db.runRow run.runId) :
    RowDescribes db' run committed ↔ RowDescribes db run committed := by
  rw [RowDescribes, RowDescribes, same]

theorem InBooks.congr {db db' : Database} {run : IngestRun} {committed : List CommittedChunk}
    (same : db'.runRow run.runId = db.runRow run.runId) (books : InBooks db run committed) :
    InBooks db' run committed := by
  intro running
  obtain ⟨row, books⟩ := books running
  exact ⟨row, same.trans books.found, books.running, books.work, books.tallies, books.atLeast⟩

/-- The new entries are those of the run that took the step. -/
theorem committed_append (s : LedgerState) (system : SystemState) (index : ℕ)
    (chunks : List CommittedChunk) (run : ℕ) :
    (LedgerState.mk system (s.ledger ++ chunks.map fun chunk => (index, chunk))).committed run
      = s.committed run ++ if run = index then chunks else [] := by
  rw [LedgerState.committed, LedgerState.committed, List.filter_append, List.map_append]
  congr 1
  rw [List.filter_map, List.map_map]
  by_cases same : run = index
  · subst same
    simp [Function.comp_def]
  · simp [Function.comp_def, same, Ne.symm same]

section System

variable {viem : Viem} {s : LedgerState}

theorem committed_eq_nil {run : ℕ} (entries : ∀ entry ∈ s.ledger, entry.1 < s.system.runs.length)
    (new : s.system.runs.length ≤ run) : s.committed run = [] := by
  rw [LedgerState.committed, List.filter_eq_nil_iff.mpr, List.map_nil]
  intro entry mem same
  have below := entries entry mem
  have same : entry.1 = run := of_decide_eq_true same
  omega

/-- A run that starts has its books in order. -/
theorem books_start {db : Database} (numbered : db.Numbered) (options : IngestLogsOptions)
    (finalizedHead nextBlock : ℤ) :
    ∃ row, Books (insertRun options nextBlock db)
      (.start options finalizedHead db.runs.length nextBlock) [] row := by
  obtain ⟨row, found, running, counters, -⟩ := runRow_insertRun numbered options nextBlock
  exact ⟨row, found, running, congrArg _ counters, ⟨rfl, rfl, rfl, rfl⟩, le_rfl⟩

theorem LedgerInvariant.newRun (inv : LedgerInvariant s) (options : IngestLogsOptions)
    (finalizedHead nextBlock : ℤ) :
    LedgerInvariant ⟨⟨insertRun options nextBlock s.system.database, s.system.runs ++
      [.start options finalizedHead s.system.database.runs.length nextBlock]⟩, s.ledger⟩ := by
  have longer : (insertRun options nextBlock s.system.database).runs.length
      = s.system.database.runs.length + 1 := by
    rw [insertRun, List.length_append, List.length_singleton]
  obtain ⟨-, -, -, -, others⟩ := runRow_insertRun inv.numbered options nextBlock
  refine ⟨inv.numbered.insertRun options nextBlock, ?_, ?_, ?_, ?_⟩
  · intro index run found
    rw [longer]
    rcases getElem?_append_run found with old | ⟨-, rfl⟩
    · have below := inv.runIds index run old
      omega
    · exact Nat.lt_succ_self _
  · intro index index' run run' found found' same
    rcases getElem?_append_run found with old | ⟨rfl, rfl⟩ <;>
      rcases getElem?_append_run found' with old' | ⟨rfl, rfl⟩
    · exact inv.distinct index index' run run' old old' same
    · have below := inv.runIds index run old
      change run.runId = s.system.database.runs.length at same
      omega
    · have below := inv.runIds index' run' old'
      change s.system.database.runs.length = run'.runId at same
      omega
    · rfl
  · intro entry mem
    rw [List.length_append, List.length_singleton]
    exact Nat.lt_succ_of_lt (inv.entries entry mem)
  · intro index run found
    rcases getElem?_append_run found with old | ⟨rfl, rfl⟩
    · have below := inv.runIds index run old
      exact (inv.books index run old).congr (others _ (by omega))
    · have nothing : s.committed s.system.runs.length = [] := committed_eq_nil inv.entries le_rfl
      intro _
      show ∃ row, Books _ _ (s.committed s.system.runs.length) row
      rw [nothing]
      exact books_start inv.numbered options finalizedHead nextBlock

/-- A run that starts has a row that describes it, and the rows of the others are the same. -/
theorem rowsDescribe_newRun_iff (inv : LedgerInvariant s) (options : IngestLogsOptions)
    (finalizedHead nextBlock : ℤ) :
    LedgerState.RowsDescribe ⟨⟨insertRun options nextBlock s.system.database, s.system.runs ++
        [.start options finalizedHead s.system.database.runs.length nextBlock]⟩, s.ledger⟩
      ↔ s.RowsDescribe := by
  obtain ⟨-, -, -, -, others⟩ := runRow_insertRun inv.numbered options nextBlock
  have kept (index : ℕ) (run : IngestRun) (old : s.system.runs[index]? = some run) :
      RowDescribes (insertRun options nextBlock s.system.database) run (s.committed index)
        ↔ RowDescribes s.system.database run (s.committed index) := by
    have below := inv.runIds index run old
    exact RowDescribes.congr (others _ (by omega))
  constructor
  · intro all index run old
    refine (kept index run old).mp (all index run ?_)
    exact (List.getElem?_append_left (List.getElem?_eq_some_iff.mp old).1).trans old
  · intro all index run found
    rcases getElem?_append_run found with old | ⟨rfl, rfl⟩
    · exact (kept index run old).mpr (all index run old)
    · obtain ⟨row, books⟩ := books_start inv.numbered options finalizedHead nextBlock
      have nothing : s.committed s.system.runs.length = [] := committed_eq_nil inv.entries le_rfl
      show RowDescribes _ _ (s.committed s.system.runs.length)
      rw [nothing]
      exact (books.rowDescribes_iff rfl).mpr rfl

/-- The state after a step of the run at a position. -/
def LedgerState.after (s : LedgerState) (index : ℕ) (r : RunState × List BlockRange) :
    LedgerState :=
  ⟨⟨r.1.database, s.system.runs.set index r.1.run⟩, s.ledger ++ r.2.map fun range =>
    (index, .between s.system.database r.1.database range)⟩

theorem committed_after (s : LedgerState) (index : ℕ) (r : RunState × List BlockRange) (run : ℕ) :
    (s.after index r).committed run = s.committed run ++
      if run = index then r.2.map (.between s.system.database r.1.database) else [] := by
  rw [← committed_append s (s.after index r).system, List.map_map]
  rfl

variable {input : RunInput} {index : ℕ} {run : IngestRun} {r : RunState × List BlockRange}

/-- The others have their rows as before. -/
theorem LedgerInvariant.runRow_other (inv : LedgerInvariant s)
    (found : s.system.runs[index]? = some run)
    (booked : Booked viem input ⟨s.system.database, run⟩ r) {i : ℕ} {other : IngestRun}
    (notSelf : i ≠ index) (hother : s.system.runs[i]? = some other) :
    r.1.database.runRow other.runId = s.system.database.runRow other.runId :=
  booked.runRow_of_ne fun same => notSelf (inv.distinct i index other run hother found same)

theorem LedgerInvariant.step (inv : LedgerInvariant s)
    (found : s.system.runs[index]? = some run)
    (booked : Booked viem input ⟨s.system.database, run⟩ r) :
    LedgerInvariant (s.after index r) := by
  obtain ⟨numbered, length⟩ := booked.numbered inv.numbered
  have runId := booked.runId_eq
  refine ⟨numbered, ?_, ?_, ?_, ?_⟩
  · intro i other at_
    show other.runId < r.1.database.runs.length
    rw [length]
    rcases getElem?_set_run found at_ with ⟨rfl, rfl⟩ | ⟨-, old⟩
    · rw [runId]
      exact inv.runIds _ run found
    · exact inv.runIds i other old
  · intro i j other other' at_ at_' same
    rcases getElem?_set_run found at_ with ⟨rfl, rfl⟩ | ⟨notSelf, old⟩ <;>
      rcases getElem?_set_run found at_' with ⟨rfl, rfl⟩ | ⟨notSelf', old'⟩
    · rfl
    · exact inv.distinct _ _ run other' found old' (runId.symm.trans same)
    · exact inv.distinct _ _ other run old found (same.trans runId)
    · exact inv.distinct i j other other' old old' same
  · intro entry mem
    show entry.1 < (s.system.runs.set index r.1.run).length
    rw [List.length_set]
    rcases List.mem_append.mp mem with old | new
    · exact inv.entries entry old
    · obtain ⟨range, -, rfl⟩ := List.mem_map.mp new
      exact (List.getElem?_eq_some_iff.mp found).1
  · intro i other at_
    rw [committed_after]
    rcases getElem?_set_run found at_ with ⟨rfl, rfl⟩ | ⟨notSelf, old⟩
    · rw [if_pos rfl]
      exact booked.inBooks (inv.books _ run found) inv.numbered.events
    · rw [if_neg notSelf, List.append_nil]
      exact (inv.books i other old).congr (inv.runRow_other found booked notSelf old)

/-- **When one step keeps all rows right**: if it keeps the row of its run right. -/
theorem rowsDescribe_after_iff (inv : LedgerInvariant s)
    (found : s.system.runs[index]? = some run)
    (booked : Booked viem input ⟨s.system.database, run⟩ r) :
    (s.after index r).RowsDescribe
      ↔ s.RowsDescribe ∧ input.CountsRight viem ⟨s.system.database, run⟩ := by
  have inside := (List.getElem?_eq_some_iff.mp found).1
  have self := booked.rowDescribes_iff (inv.books index run found) inv.numbered.events
  constructor
  · intro all
    have mine := all index r.1.run (List.getElem?_set_self inside)
    rw [committed_after, if_pos rfl] at mine
    obtain ⟨before, right⟩ := self.mp mine
    refine ⟨fun i other old => ?_, right⟩
    by_cases same : i = index
    · subst same
      obtain rfl := Option.some.inj (found.symm.trans old)
      exact before
    · have after := all i other ((List.getElem?_set_ne (Ne.symm same)).trans old)
      rw [committed_after, if_neg same, List.append_nil] at after
      exact (RowDescribes.congr (inv.runRow_other found booked same old)).mp after
  · rintro ⟨all, right⟩ i other at_
    rw [committed_after]
    rcases getElem?_set_run found at_ with ⟨rfl, rfl⟩ | ⟨notSelf, old⟩
    · rw [if_pos rfl]
      exact self.mpr ⟨all _ run found, right⟩
    · rw [if_neg notSelf, List.append_nil]
      exact (RowDescribes.congr (inv.runRow_other found booked notSelf old)).mpr (all i other old)

end System

/-- **When the counters describe committed work**: from any database, in any interleaving of runs
and whatever fails, the rows of all runs agree with what the runs have committed exactly if every
chunk on the way was counted right. -/
theorem run_counters_iff (viem : Viem) (schedule : List SystemInput) {db : Database}
    (numbered : db.Numbered) :
    (Machine.run (ledgerStep viem) schedule (.start db)).1.RowsDescribe
      ↔ Machine.Along (ledgerStep viem) (CountsRight viem) schedule (.start db) := by
  have start : (LedgerState.start db).RowsDescribe := by
    intro index run found
    simp [LedgerState.start] at found
  have decided := @Machine.run_iff_along _ _ _ (ledgerStep viem) LedgerInvariant
    LedgerState.RowsDescribe (CountsRight viem) ?_ ?_ schedule _ (LedgerInvariant.start numbered)
  · rw [decided, and_iff_right start]
  · intro input s inv
    rcases ledgerStep_spec viem input s with ⟨-, eq⟩ | ⟨options, nextBlock, finalizedHead, -, eq⟩ |
      ⟨index, runInput, run, r, -, found, booked, eq⟩
    · rw [eq]
      exact inv
    · rw [eq]
      exact inv.newRun options finalizedHead nextBlock
    · rw [eq]
      exact inv.step found booked
  · intro input s inv
    rcases ledgerStep_spec viem input s with ⟨right, eq⟩ |
      ⟨options, nextBlock, finalizedHead, right, eq⟩ |
      ⟨index, runInput, run, r, rfl, found, booked, eq⟩
    · rw [eq, and_iff_left right]
    · rw [eq, and_iff_left right, rowsDescribe_newRun_iff inv]
    · rw [eq]
      refine (rowsDescribe_after_iff inv found booked).trans (and_congr_right fun _ => ?_)
      constructor
      · intro right other found'
        obtain rfl := Option.some.inj (found.symm.trans found')
        exact right
      · intro right
        exact right run found

/-- One run over `[100, 149]` in one chunk, of which the provider returns these logs. -/
def countedSchedule (logs : List Log) (fault : Option (PersistStatement × JsError)) :
    List SystemInput :=
  .start (sampleOptions 100 149 50) (sampleStart 200) ::
    [.plan samplePlan, .fetchLogs false 0 ⟨false, fun _ _ => .ok logs⟩,
      .chunk { sampleChunk with fault }, .plan samplePlan].map (.step 0)

theorem numbered_empty : Database.empty.Numbered :=
  ⟨fun _ mem => absurd mem List.not_mem_nil, fun _ mem => absurd mem List.not_mem_nil⟩

theorem run_counters_iff_committed :
    (Machine.run (ledgerStep accruedViem) (countedSchedule [accruedLog.toLog] none)
      (.start .empty)).1.RowsDescribe :=
  (run_counters_iff accruedViem _ numbered_empty).mpr (by decide +kernel)

/-- **Counters that describe no work.**  If the commit fails, the row of the run counts a log and
an event that are not stored; if the connection fails, a log that is neither new nor a duplicate;
and of a log that comes twice, two events. -/
theorem run_counters_overcount :
    let ended (logs : List Log) (fault : Option (PersistStatement × JsError)) : Database :=
      (Machine.run (ledgerStep accruedViem) (countedSchedule logs fault)
        (.start .empty)).1.system.database
    let lost := ended [accruedLog.toLog] (some (.commit, ⟨"Connection terminated"⟩))
    let refused := ended [accruedLog.toLog] (some (.connect, ⟨"Connection refused"⟩))
    let twice := ended [accruedLog.toLog, accruedLog.toLog] none
    ((lost.runRow 0).map fun row => (row.status, row.counters.rawLogsInserted,
        row.counters.eventsDecoded)) = some (.failed, 1, 1) ∧
      lost.rawLogs.length = 0 ∧ lost.protocolEvents.length = 0 ∧
    ((refused.runRow 0).map fun row => (row.status, row.counters.logsFetched,
        row.counters.rawLogsInserted + row.counters.duplicateRawLogs)) = some (.failed, 1, 0) ∧
    ((twice.runRow 0).map fun row => (row.status, row.counters.eventsDecoded))
        = some (.completed, 2) ∧
      twice.protocolEvents.length = 1 := by
  decide +kernel

end UsdpIndexer
