import UsdpIndexer.Indexer.Fetch
import UsdpIndexer.Library.Machine

/-!
# A run of the indexer

`ingestLogs` of `indexer/service.ts`.  `startIngest` is its prologue, up to the
row in `indexer_runs`; `advance` is one step of its loop.

The loop is a machine because its steps are not one after the other: the fetches
of a batch run side by side, and go on behind the back of the loop when it has
dropped the batch.  A step is

* `plan` — the head of the outer loop: stop, or plan a batch and start its
  fetches;
* `fetchLogs` — one turn of one fetch, of the batch or of a dropped one;
* `chunk` — one turn of the inner loop: await the next fetch, fetch the blocks,
  persist the chunk, report.

Everything outside the program — RPC, database failures, the abort signal —
comes in with the step.  Progress callbacks are taken not to throw and are left
out, as are the request intervals of the clients.

`Advance` lists what one step can come to, and `advance_spec` says that the list
is complete.  It is the only fact about the loop that the safety proofs use.
-/

namespace UsdpIndexer

open Text IntegerCover

/-! ## Options and progress -/

/-- What `ingestLogs` is called with; a name that ends in `?` has a default. -/
structure IngestLogsOptions where
  fromBlock : ℤ
  toBlock : ℤ
  finalityLag : ℤ
  chunkSize : ℤ
  scope? : Option String
  maxRetries : Option ℤ
  retryRateLimitsIndefinitely : Option Bool
  anchorEveryChunks : Option ℤ
  fetchConcurrency : Option ℤ
  blockFetchBatchSize : Option ℤ
  adapter : Option SavingsChainAdapter
  addresses? : Option (List String)
deriving DecidableEq, Repr

/-- The scope of a call that names none. -/
def DEFAULT_INDEXER_SCOPE : String := "parallel-usdp-susdp-seven-day-v1"

/-- The contracts of HyperEVM. -/
def hyperevmAddresses : List String :=
  [hyperevmUsdpAddress, hyperevmSusdpAddress, hyperevmParallelizerAddress]

namespace IngestLogsOptions

variable (options : IngestLogsOptions)

/-- The scope that is asked for, or the default one. -/
def scope : String := options.scope?.getD DEFAULT_INDEXER_SCOPE

/-- The chain of the adapter, or HyperEVM. -/
def chainId : ℕ := (options.adapter.map (·.chainId)).getD HYPEREVM_CHAIN_ID

/-- The contracts that are asked for, or the two of the adapter, or those of HyperEVM. -/
def addresses : List String :=
  options.addresses?.getD <|
    (options.adapter.map fun adapter => [adapter.usdp.address, adapter.susdp.address]).getD
      hyperevmAddresses

/-- How often a request is sent again. -/
def retryPolicy : RetryPolicy :=
  ⟨options.maxRetries.getD 5, options.retryRateLimitsIndefinitely.getD false⟩

/-- `Math.max(1, options.fetchConcurrency ?? 50)` -/
def concurrency : ℕ := (max 1 (options.fetchConcurrency.getD 50)).toNat

/-- `Math.max(1, options.blockFetchBatchSize ?? 1)` -/
def blockBatchSize : ℕ := (max 1 (options.blockFetchBatchSize.getD 1)).toNat

end IngestLogsOptions

/-- How a call has ended. -/
inductive IngestionStatus
  | noop
  | running
  | completed
  | failed
  | interrupted
deriving DecidableEq, Repr

/-- The statuses that report success. -/
def IngestionStatus.Successful (status : IngestionStatus) : Prop :=
  status = .completed ∨ status = .noop

theorem not_successful_interrupted : ¬ IngestionStatus.interrupted.Successful := by
  simp [IngestionStatus.Successful]

/-- What `ingestLogs` returns. -/
structure IngestionProgress where
  runId : Option ℕ
  status : IngestionStatus
  scope : String
  requestedFromBlock : ℤ
  requestedToBlock : ℤ
  nextBlock : ℤ
  finalizedHead : ℤ
  chunkSize : ℤ
  counters : IngestionCounters
deriving DecidableEq, Repr

/-! ## The state of a run -/

/-- The local variables of a running `ingestLogs`.  `fetchedBatch` are the
fetches the inner loop has still to await, `dropped` those it never will. -/
structure IngestRun where
  options : IngestLogsOptions
  finalizedHead : ℤ
  runId : ℕ
  nextBlock : ℤ
  activeChunkSize : ℤ
  counters : IngestionCounters
  fetchedBatch : List LogFetch
  dropped : List LogFetch
  outcome : Attempted IngestionProgress

/-- The local variables as the loop takes over. -/
def IngestRun.start (options : IngestLogsOptions) (finalizedHead : ℤ) (runId : ℕ)
    (nextBlock : ℤ) : IngestRun :=
  ⟨options, finalizedHead, runId, nextBlock, options.chunkSize, blankCounters, [], [], .waiting⟩

/-- What the run would return now. -/
def IngestRun.progress (run : IngestRun) (status : IngestionStatus) : IngestionProgress where
  runId := some run.runId
  status := status
  scope := run.options.scope
  requestedFromBlock := run.options.fromBlock
  requestedToBlock := run.options.toBlock
  nextBlock := run.nextBlock
  finalizedHead := run.finalizedHead
  chunkSize := run.activeChunkSize
  counters := run.counters

/-! ## The prologue -/

/-- Chain and scope, under which a call writes. -/
def IngestLogsOptions.lane (options : IngestLogsOptions) : Lane :=
  ⟨options.chainId, options.scope⟩

/-- What the prologue meets. -/
structure StartAnswers where
  getFinalizedBlock : Except JsError RpcBlock
  getBlockNumber : Except JsError ℤ
  getBlock : ℤ → Except JsError RpcBlock
  selectCheckpoint : Option JsError
  insertRun : Option JsError

/-- What the prologue comes to. -/
inductive IngestStart
  | threw (error : JsError)
  | noop (progress : IngestionProgress)
  | running (run : IngestRun)

/-- The latest block that counts as final: as the endpoint says, or so many blocks behind its head.
-/
def readFinalizedBlock (options : IngestLogsOptions) (answers : StartAnswers) :
    Except JsError RpcBlock :=
  if options.adapter.map (·.finality) = some .rpcFinalized then answers.getFinalizedBlock
  else do
    let head ← answers.getBlockNumber
    answers.getBlock (head - options.finalityLag)

/-- The stored anchor must still be the provider's block. -/
def checkAnchor (answers : StartAnswers) (stored : Option CheckpointRow) : Except JsError Unit :=
  match stored.bind (·.lastCompletedBlock), stored.bind (·.lastCompletedBlockHash) with
  | some lastCompletedBlock, some lastCompletedBlockHash =>
      -- without a hash there is nothing to compare
      if lastCompletedBlockHash = "" then .ok ()
      else do
        let anchor ← answers.getBlock lastCompletedBlock
        if anchor.hash.map toLowerCase ≠ some (toLowerCase lastCompletedBlockHash) then
          .error ⟨s!"Checkpoint hash drift at block {lastCompletedBlock}"⟩
        else .ok ()
  | _, _ => .ok ()

/-- Where a run resumes: at the stored block, unless that lies before the
request. -/
def resumeBlock (options : IngestLogsOptions) (stored : Option CheckpointRow) : ℤ :=
  match stored with
  | some checkpoint =>
      if checkpoint.nextBlock > options.fromBlock then checkpoint.nextBlock
      else options.fromBlock
  | none => options.fromBlock

/-- `insert into indexer_runs … returning id`. -/
def insertRun (options : IngestLogsOptions) (nextBlock : ℤ) (db : Database) : Database :=
  { db with runs := db.runs ++
      [⟨db.runs.length, options.chainId, nextBlock, options.toBlock, .running, blankCounters,
        none⟩] }

/-- `ingestLogs` before its loop.  The checkpoint is read and the run inserted
in one step: the row of a run concerns no other run. -/
def startIngest (options : IngestLogsOptions) (answers : StartAnswers) (db : Database) :
    IngestStart × Database :=
  match readFinalizedBlock options answers with
  | .error error => (.threw error, db)
  | .ok finalizedBlock =>
    match finalizedBlock.number with
    | none => (.threw ⟨"RPC returned an unmined finalized block"⟩, db)
    | some finalizedHead =>
      if options.toBlock > finalizedHead then
        (.threw ⟨s!"Requested end block {options.toBlock} exceeds finalized head {finalizedHead}"⟩,
          db)
      else if options.fromBlock > options.toBlock then
        (.threw ⟨"fromBlock must not exceed toBlock"⟩, db)
      else
        match answers.selectCheckpoint with
        | some error => (.threw error, db)
        | none =>
          let stored := db.checkpoint options.chainId options.scope
          match checkAnchor answers stored with
          | .error error => (.threw error, db)
          | .ok () =>
            let nextBlock := resumeBlock options stored
            if nextBlock > options.toBlock then
              (.noop ⟨none, .noop, options.scope, options.fromBlock, options.toBlock, nextBlock,
                finalizedHead, options.chunkSize, blankCounters⟩, db)
            else
              match answers.insertRun with
              | some error => (.threw error, db)
              | none =>
                (.running (.start options finalizedHead db.runs.length nextBlock),
                  insertRun options nextBlock db)

/-- The resume point is the greater of the requested start and the stored block. -/
theorem resumeBlock_eq_max (options : IngestLogsOptions) (stored : Option CheckpointRow) :
    resumeBlock options stored
      = max options.fromBlock ((stored.map (·.nextBlock)).getD options.fromBlock) := by
  unfold resumeBlock
  cases stored with
  | none => simp
  | some checkpoint =>
      simp only [Option.map_some, Option.getD_some]
      split <;> omega

/-- What the prologue comes to: it throws, finds nothing to do, or hands over to
the loop. -/
theorem startIngest_spec (options : IngestLogsOptions) (answers : StartAnswers) (db : Database) :
    (∃ error, startIngest options answers db = (.threw error, db)) ∨
    (∃ progress, startIngest options answers db = (.noop progress, db) ∧
      progress.status = .noop ∧ options.fromBlock ≤ options.toBlock ∧
      progress.nextBlock = resumeBlock options (db.checkpoint options.chainId options.scope) ∧
      options.toBlock < progress.nextBlock) ∨
    (∃ finalizedHead,
      resumeBlock options (db.checkpoint options.chainId options.scope) ≤ options.toBlock ∧
      options.fromBlock ≤ options.toBlock ∧ options.toBlock ≤ finalizedHead ∧
      startIngest options answers db
        = (.running (.start options finalizedHead db.runs.length
            (resumeBlock options (db.checkpoint options.chainId options.scope))),
          insertRun options (resumeBlock options (db.checkpoint options.chainId options.scope))
            db)) := by
  unfold startIngest
  split
  · exact .inl ⟨_, rfl⟩
  · split
    · exact .inl ⟨_, rfl⟩
    · rename_i finalizedHead _
      split
      · exact .inl ⟨_, rfl⟩
      · split
        · exact .inl ⟨_, rfl⟩
        · cases answers.selectCheckpoint with
          | some error => exact .inl ⟨error, rfl⟩
          | none =>
              simp only
              cases checkAnchor answers (db.checkpoint options.chainId options.scope) with
              | error error => exact .inl ⟨error, rfl⟩
              | ok _ =>
                  simp only
                  split
                  · exact .inr (.inl ⟨_, rfl, rfl, by omega, rfl, by simp only; omega⟩)
                  · cases answers.insertRun with
                    | some error => exact .inl ⟨error, rfl⟩
                    | none =>
                        exact .inr (.inr ⟨finalizedHead, by omega, by omega, by omega, rfl⟩)

/-! ## The loop -/

/-- What the `catch` of the loop meets. -/
structure CatchAnswers where
  aborted : Bool
  updateRun : Option JsError

/-- What the head of the outer loop meets. -/
structure PlanAnswers where
  aborted : Bool
  updateRun : Option JsError
  handler : CatchAnswers

/-- What one turn of the inner loop meets. -/
structure ChunkAnswers where
  blocks : BlockAnswers
  getBlock : ℤ → Except JsError RpcBlock
  fault : Option (PersistStatement × JsError)
  updateRun : Option JsError
  handler : CatchAnswers

/-- A step of a run. -/
inductive RunInput
  | plan (answers : PlanAnswers)
  | fetchLogs (dropped : Bool) (index : ℕ) (answer : LogAnswer)
  | chunk (answers : ChunkAnswers)

/-- The database and one run. -/
structure RunState where
  database : Database
  run : IngestRun

/-- `updateRun`, as a change of the table. -/
def updateRun (runId : ℕ) (status : IndexerRunStatus) (counters : IngestionCounters)
    (failure : Option JsError) (db : Database) : Database :=
  { db with runs := db.runs.map fun row =>
      if row.id = runId then
        { row with
          status := status
          counters := counters
          failure := failure.map providerErrorMessage }
      else row }

/-- The run has returned its progress. -/
def RunState.finish (status : IngestionStatus) (s : RunState) : RunState :=
  { s with run := { s.run with outcome := .returned (s.run.progress status) } }

/-- The run has thrown. -/
def RunState.reject (error : JsError) (s : RunState) : RunState :=
  { s with run := { s.run with outcome := .threw error } }

/-- The row of the run is written. -/
def RunState.update (status : IndexerRunStatus) (failure : Option JsError) (s : RunState) :
    RunState :=
  { s with database := updateRun s.run.runId status s.run.counters failure s.database }

/-- The `catch` of the loop. -/
def handleError (answers : CatchAnswers) (error : JsError) (s : RunState) : RunState :=
  match answers.updateRun with
  | some updateError => s.reject updateError
  | none =>
      if answers.aborted then (s.update .interrupted none).finish .interrupted
      else (s.update .failed (some error)).reject error

/-- The planning loop, for at most so many chunks. -/
def planBatch (toBlock chunkSize : ℤ) : ℕ → ℤ → Except JsError (List BlockRange)
  | 0, _ => .ok []
  | fetchConcurrency + 1, plannedFrom =>
      if plannedFrom ≤ toBlock then do
        let range ← planBlockRange plannedFrom toBlock chunkSize
        let rest ← planBatch toBlock chunkSize fetchConcurrency (range.toBlock + 1)
        return range :: rest
      else .ok []

/-- The head of the outer loop. -/
def planStep (answers : PlanAnswers) (s : RunState) : RunState :=
  let run := s.run
  if run.nextBlock ≤ run.options.toBlock then
    if answers.aborted then
      match answers.updateRun with
      | some error => handleError answers.handler error s
      | none => (s.update .interrupted none).finish .interrupted
    else
      match planBatch run.options.toBlock run.activeChunkSize run.options.concurrency
          run.nextBlock with
      | .error error => handleError answers.handler error s
      | .ok plannedRanges =>
          { s with run := { run with
              fetchedBatch := plannedRanges.map (LogFetch.start · run.activeChunkSize) } }
  else
    match answers.updateRun with
    | some error => handleError answers.handler error s
    | none => (s.update .completed none).finish .completed

/-- One turn of the fetch at a position of a list. -/
def fetchAt (addresses : List String) (policy : RetryPolicy) (answer : LogAnswer) (index : ℕ)
    (fetches : List LogFetch) (counters : IngestionCounters) : List LogFetch × IngestionCounters :=
  match fetches[index]? with
  | none => (fetches, counters)
  | some fetch =>
      let next := fetchLogsAttempt addresses policy answer fetch counters
      (fetches.set index next.1, next.2)

/-- An answer to one of the fetches, whether it is still awaited or dropped. -/
def fetchStep (dropped : Bool) (index : ℕ) (answer : LogAnswer) (s : RunState) : RunState :=
  let run := s.run
  let next := fetchAt run.options.addresses run.options.retryPolicy answer index
    (if dropped then run.dropped else run.fetchedBatch) run.counters
  if dropped then { s with run := { run with dropped := next.1, counters := next.2 } }
  else { s with run := { run with fetchedBatch := next.1, counters := next.2 } }

/-- Whether the chunk to be persisted carries an anchor. -/
def shouldAnchor (run : IngestRun) (range : BlockRange) : Bool :=
  range.toBlock = run.options.toBlock ∨
    ((run.counters.chunks : ℤ) + 1) % run.options.anchorEveryChunks.getD 1000 = 0

/-- The last block of the chunk, where an anchor is due. -/
def readAnchor (answers : ChunkAnswers) (run : IngestRun) (range : BlockRange) :
    Except JsError (Option StoredBlock) :=
  if shouldAnchor run range then do
    let block ← answers.getBlock range.toBlock
    let anchor ← asStoredBlock block
    return some anchor
  else .ok none

/-- What is persisted of a fetch. -/
def IngestRun.chunk (run : IngestRun) (fetched : FetchedLogs) (blocks : List StoredBlock)
    (anchor : Option StoredBlock) : Chunk where
  chainId := run.options.chainId
  scope := run.options.scope
  runId := run.runId
  range := fetched.range
  logs := fetched.logs
  blocks := blocks
  anchor := anchor

/-- The local variables after a committed chunk, up to the `break`. -/
def IngestRun.afterChunk (run : IngestRun) (planned : BlockRange) (fetched : FetchedLogs)
    (rest : List LogFetch) : IngestRun :=
  let short := fetched.range.toBlock ≠ planned.toBlock
  { run with
    nextBlock := fetched.range.toBlock + 1
    counters := { run.counters with
      chunks := run.counters.chunks + 1
      blocksCovered := run.counters.blocksCovered + fetched.range.toBlock
        - fetched.range.fromBlock + 1 }
    fetchedBatch := if short then [] else rest
    dropped := if short then run.dropped ++ rest else run.dropped }

/-- One turn of the inner loop, for a fetch that has returned: the state, and the
range of the chunk if it was committed. -/
def chunkStep (viem : Viem) (answers : ChunkAnswers) (planned : BlockRange)
    (fetched : FetchedLogs) (rest : List LogFetch) (s : RunState) :
    RunState × List BlockRange :=
  let blocks := fetchBlocks s.run.options.blockBatchSize (logBlockNumbers fetched.logs)
    answers.blocks
  let run := { s.run with
    activeChunkSize := fetched.chunkSize
    counters := { s.run.counters with rpcRetries := s.run.counters.rpcRetries + blocks.2 } }
  match blocks.1 with
  | .waiting => (s, [])
  | .threw error => (handleError answers.handler error { s with run }, [])
  | .returned fetchedBlocks =>
    match readAnchor answers run fetched.range with
    | .error error => (handleError answers.handler error { s with run }, [])
    | .ok anchor =>
      let counters := { run.counters with
        logsFetched := run.counters.logsFetched + fetched.logs.length }
      let persisted := persistChunk viem answers.fault (run.chunk fetched fetchedBlocks anchor)
        s.database counters
      let run := { run with counters := persisted.memory }
      match persisted.result with
      | .error error => (handleError answers.handler error ⟨persisted.database, run⟩, [])
      | .ok _ =>
        let next : RunState := ⟨persisted.database, run.afterChunk planned fetched rest⟩
        match answers.updateRun with
        -- the chunk is committed, whatever becomes of the report
        | some error => (handleError answers.handler error next, [fetched.range])
        | none => (next.update .running none, [fetched.range])

/-- **One step of a run.**  A step that is not due — the fetch to be awaited has
not returned, or the run is over — changes nothing. -/
def advance (viem : Viem) (input : RunInput) (s : RunState) : RunState × List BlockRange :=
  match s.run.outcome with
  | .returned _ | .threw _ =>
      -- the run is over, its fetches need not be
      match input with
      | .fetchLogs dropped index answer => (fetchStep dropped index answer s, [])
      | _ => (s, [])
  | .waiting =>
      match input with
      | .plan answers => if s.run.fetchedBatch = [] then (planStep answers s, []) else (s, [])
      | .fetchLogs dropped index answer => (fetchStep dropped index answer s, [])
      | .chunk answers =>
          match s.run.fetchedBatch with
          | [] => (s, [])
          | head :: rest =>
              match head.outcome with
              | .waiting => (s, [])
              -- a fetch that has failed is noticed when it is awaited, not before
              | .threw error => (handleError answers.handler error s, [])
              | .returned fetched => chunkStep viem answers head.planned fetched rest s

/-! ## A whole run -/

/-- What a call of `ingestLogs` has done, after so many steps. -/
structure IngestResult where
  database : Database
  committed : List BlockRange
  outcome : Attempted IngestionProgress

/-- What a loop has come to. -/
def IngestResult.ofLoop (final : RunState × List BlockRange) : IngestResult :=
  ⟨final.1.database, final.2, final.1.run.outcome⟩

/-- `ingestLogs`: the prologue, and the loop on a schedule of steps. -/
def ingestLogs (viem : Viem) (options : IngestLogsOptions) (answers : StartAnswers)
    (schedule : List RunInput) (db : Database) : IngestResult :=
  match startIngest options answers db with
  | (.threw error, db) => ⟨db, [], .threw error⟩
  | (.noop progress, db) => ⟨db, [], .returned progress⟩
  | (.running run, db) => .ofLoop (Machine.run (advance viem) schedule ⟨db, run⟩)

/-- The state in which the loop takes over. -/
def loopStart (options : IngestLogsOptions) (finalizedHead : ℤ) (db : Database) : RunState :=
  let nextBlock := resumeBlock options (db.checkpoint options.chainId options.scope)
  ⟨insertRun options nextBlock db, .start options finalizedHead db.runs.length nextBlock⟩

/-- A call throws before it has done anything, has nothing to do, or is its
loop. -/
theorem ingestLogs_spec (viem : Viem) (options : IngestLogsOptions) (answers : StartAnswers)
    (schedule : List RunInput) (db : Database) :
    (∃ error, ingestLogs viem options answers schedule db = ⟨db, [], .threw error⟩) ∨
    (∃ progress, ingestLogs viem options answers schedule db = ⟨db, [], .returned progress⟩ ∧
      progress.status = .noop ∧ options.fromBlock ≤ options.toBlock ∧
      progress.nextBlock = resumeBlock options (db.checkpoint options.chainId options.scope) ∧
      options.toBlock < progress.nextBlock) ∨
    (∃ finalizedHead,
      resumeBlock options (db.checkpoint options.chainId options.scope) ≤ options.toBlock ∧
      options.fromBlock ≤ options.toBlock ∧
      ingestLogs viem options answers schedule db
        = .ofLoop (Machine.run (advance viem) schedule (loopStart options finalizedHead db))) := by
  unfold ingestLogs
  rcases startIngest_spec options answers db with ⟨error, threw⟩ |
    ⟨progress, noop, status, ordered, nextBlock, finished⟩ |
    ⟨finalizedHead, unfinished, ordered, -, running⟩
  · rw [threw]
    exact .inl ⟨error, rfl⟩
  · rw [noop]
    exact .inr (.inl ⟨progress, rfl, status, ordered, nextBlock, finished⟩)
  · rw [running]
    exact .inr (.inr ⟨finalizedHead, unfinished, ordered, rfl⟩)

/-! ### A sample environment

An environment in which nothing fails, for runs that fit into one chunk. -/

/-- A package that decodes nothing. -/
def sampleViem : Viem := ⟨fun _ _ _ => none, fun signature => signature⟩

/-- A call with a range and a chunk size, and defaults for the rest. -/
def sampleOptions (fromBlock toBlock chunkSize : ℤ) : IngestLogsOptions where
  fromBlock := fromBlock
  toBlock := toBlock
  finalityLag := 0
  chunkSize := chunkSize
  scope? := none
  maxRetries := none
  retryRateLimitsIndefinitely := none
  anchorEveryChunks := none
  fetchConcurrency := none
  blockFetchBatchSize := none
  adapter := none
  addresses? := none

/-- A hash of its own for every number. -/
def sampleHash (number : ℤ) : String :=
  let digits := toString number
  "0x" ++ String.ofList (List.replicate (64 - digits.length) '0') ++ digits

/-- The block that the provider has at a number. -/
def sampleBlock (number : ℤ) : RpcBlock := ⟨some number, some (sampleHash number), "0x", number⟩

/-- A provider with this head. -/
def sampleStart (head : ℤ) : StartAnswers where
  getFinalizedBlock := .ok (sampleBlock head)
  getBlockNumber := .ok head
  getBlock := fun number => .ok (sampleBlock number)
  selectCheckpoint := none
  insertRun := none

/-- Nothing fails while a batch is planned. -/
def samplePlan : PlanAnswers := ⟨false, none, ⟨false, none⟩⟩

/-- Nothing fails while a chunk is persisted. -/
def sampleChunk : ChunkAnswers where
  blocks := ⟨fun number => [.ok (sampleBlock number)], fun _ => [], []⟩
  getBlock := fun number => .ok (sampleBlock number)
  fault := none
  updateRun := none
  handler := ⟨false, none⟩

/-- One chunk, and the end. -/
def sampleLoop (getLogs : List String → BlockRange → Except JsError (List Log)) : List RunInput :=
  [.plan samplePlan, .fetchLogs false 0 ⟨false, getLogs⟩, .chunk sampleChunk, .plan samplePlan]

/-! ## What a step can come to -/

/-- The progress with which a run ends is true of where it ended. -/
def IngestRun.EndsWith (run : IngestRun) : Attempted IngestionProgress → Prop
  | .waiting => False
  | .threw _ => True
  | .returned progress =>
      progress.nextBlock = run.nextBlock ∧
        (progress.status.Successful → run.options.toBlock < run.nextBlock)

/-- **Everything a step can come to**, with the ranges it commits.  A run that
stops writes nothing but its own row. -/
inductive Advance (viem : Viem) (input : RunInput) (s : RunState) :
    RunState × List BlockRange → Prop
  | idle : Advance viem input s (s, [])
  | planned (ranges : List BlockRange) (running : s.run.outcome = .waiting)
      (unfinished : s.run.nextBlock ≤ s.run.options.toBlock)
      (plan : planBatch s.run.options.toBlock s.run.activeChunkSize s.run.options.concurrency
        s.run.nextBlock = .ok ranges) :
      Advance viem input s
        ({ s with run := { s.run with
            fetchedBatch := ranges.map (LogFetch.start · s.run.activeChunkSize) } }, [])
  | fetched (dropped : Bool) (index : ℕ) (answer : LogAnswer)
      (asked : input = .fetchLogs dropped index answer) :
      Advance viem input s (fetchStep dropped index answer s, [])
  | stopped (runs : List IndexerRunRow) (activeChunkSize : ℤ) (counters : IngestionCounters)
      (outcome : Attempted IngestionProgress) (running : s.run.outcome = .waiting)
      (ends : s.run.EndsWith outcome) :
      Advance viem input s
        (⟨{ s.database with runs }, { s.run with activeChunkSize, counters, outcome }⟩, [])
  | committed (answers : ChunkAnswers) (head : LogFetch) (rest : List LogFetch)
      (fetched : FetchedLogs) (blocks : List StoredBlock) (anchor : Option StoredBlock)
      (counters counters' : IngestionCounters) (runs : List IndexerRunRow)
      (outcome : Attempted IngestionProgress)
      (asked : input = .chunk answers)
      (running : s.run.outcome = .waiting)
      (batch : s.run.fetchedBatch = head :: rest)
      (returned : head.outcome = .returned fetched)
      (anchored : readAnchor answers s.run fetched.range = .ok anchor)
      (commit : (persistChunk viem answers.fault (s.run.chunk fetched blocks anchor) s.database
        counters).result = .ok ⟨⟩)
      (goesOn : outcome = .waiting ∨
        (s.run.afterChunk head.planned fetched rest).EndsWith outcome) :
      Advance viem input s
        (⟨{ (persistChunk viem answers.fault (s.run.chunk fetched blocks anchor) s.database
              counters).database with runs },
          { s.run.afterChunk head.planned fetched rest with
            activeChunkSize := fetched.chunkSize
            counters := counters'
            outcome := outcome }⟩, [fetched.range])

/-- The `catch` ends the run, without success. -/
theorem handleError_spec (answers : CatchAnswers) (error : JsError) (s : RunState) :
    ∃ runs outcome, handleError answers error s
        = ⟨{ s.database with runs }, { s.run with outcome }⟩ ∧ s.run.EndsWith outcome := by
  unfold handleError
  split
  · exact ⟨s.database.runs, _, rfl, trivial⟩
  · split
    · exact ⟨_, _, rfl, rfl, fun success => absurd success not_successful_interrupted⟩
    · exact ⟨_, _, rfl, trivial⟩

/-- Every way out through the `catch` before a commit: a step that stops the run. -/
theorem Advance.of_handleError {viem : Viem} {input : RunInput} {s : RunState}
    (running : s.run.outcome = .waiting) (answers : CatchAnswers) (error : JsError)
    (activeChunkSize : ℤ) (counters : IngestionCounters) :
    Advance viem input s
      (handleError answers error ⟨s.database, { s.run with activeChunkSize, counters }⟩, []) := by
  obtain ⟨runs, outcome, eq, ends⟩ := handleError_spec answers error
    ⟨s.database, { s.run with activeChunkSize, counters }⟩
  rw [eq]
  exact .stopped runs activeChunkSize counters outcome running ends

theorem planStep_spec {viem : Viem} {input : RunInput} (answers : PlanAnswers) {s : RunState}
    (running : s.run.outcome = .waiting) :
    Advance viem input s (planStep answers s, []) := by
  have handled (error : JsError) :
      Advance viem input s (handleError answers.handler error s, []) :=
    .of_handleError running answers.handler error s.run.activeChunkSize s.run.counters
  unfold planStep
  simp only
  split
  · rename_i unfinished
    split
    · split
      · exact handled _
      · exact .stopped _ s.run.activeChunkSize s.run.counters _ running
          ⟨rfl, fun success => absurd success not_successful_interrupted⟩
    · split
      · exact handled _
      · rename_i ranges plan
        exact .planned ranges running unfinished plan
  · rename_i finished
    split
    · exact handled _
    · exact .stopped _ s.run.activeChunkSize s.run.counters _ running
        ⟨rfl, fun _ => not_le.mp finished⟩

theorem chunkStep_spec {viem : Viem} {answers : ChunkAnswers} {head : LogFetch}
    {rest : List LogFetch} {fetched : FetchedLogs} {s : RunState}
    (running : s.run.outcome = .waiting) (batch : s.run.fetchedBatch = head :: rest)
    (returned : head.outcome = .returned fetched) :
    Advance viem (.chunk answers) s (chunkStep viem answers head.planned fetched rest s) := by
  unfold chunkStep
  simp only
  split
  · exact .idle
  · exact .of_handleError running _ _ _ _
  · rename_i blocks _
    split
    · exact .of_handleError running _ _ _ _
    · rename_i anchor anchored
      split
      · rename_i error failed
        rw [persistChunk_rolledBack failed]
        exact .of_handleError running _ _ _ _
      · rename_i commit
        split
        · rename_i error _
          obtain ⟨runs, outcome, eq, ends⟩ := handleError_spec answers.handler error _
          rw [eq]
          exact .committed answers head rest fetched blocks anchor _ _ runs outcome rfl running
            batch returned anchored commit (.inr ends)
        · exact .committed answers head rest fetched blocks anchor _ _ _ s.run.outcome rfl
            running batch returned anchored commit (.inl running)

/-- **Every step comes to something on the list.** -/
theorem advance_spec (viem : Viem) (input : RunInput) (s : RunState) :
    Advance viem input s (advance viem input s) := by
  unfold advance
  split
  · split
    · exact .fetched _ _ _ rfl
    · exact .idle
  · split
    · exact .fetched _ _ _ rfl
    · exact .idle
  · rename_i running
    split
    · split
      · exact planStep_spec _ running
      · exact .idle
    · exact .fetched _ _ _ rfl
    · rename_i answers
      split
      · exact .idle
      · rename_i head rest batch
        split
        · exact .idle
        · exact .of_handleError running _ _ s.run.activeChunkSize s.run.counters
        · rename_i returned
          exact chunkStep_spec running batch returned

theorem Advance.options_eq {viem : Viem} {input : RunInput} {s : RunState}
    {r : RunState × List BlockRange} (step : Advance viem input s r) :
    r.1.run.options = s.run.options := by
  cases step with
  | fetched dropped index answer =>
      unfold fetchStep
      cases dropped <;> rfl
  | _ => rfl

/-- A run keeps its options. -/
theorem options_run (viem : Viem) (schedule : List RunInput) (s : RunState) :
    (Machine.run (advance viem) schedule s).1.run.options = s.run.options :=
  Machine.run_invariant (fun s' _ => s'.run.options = s.run.options)
    (fun input s' _ same => (advance_spec viem input s').options_eq.trans same) schedule rfl

/-- The logs a step fetches are as `P` says. -/
def RunInput.Meets (addresses : List String) (P : BlockRange → List Log → Prop) :
    RunInput → Prop
  | .fetchLogs _ _ answer => answer.Meets addresses P
  | _ => True

theorem fetchAt_planned (addresses : List String) (policy : RetryPolicy) (answer : LogAnswer)
    (index : ℕ) (fetches : List LogFetch) (counters : IngestionCounters) :
    (fetchAt addresses policy answer index fetches counters).1.map LogFetch.planned
      = fetches.map LogFetch.planned := by
  unfold fetchAt
  split
  · rfl
  · rename_i fetch found
    rw [List.map_set, fetchLogsAttempt_planned]
    obtain ⟨inside, rfl⟩ := List.getElem?_eq_some_iff.mp found
    refine List.ext_getElem (by simp) fun i _ _ => ?_
    rw [List.getElem_set]
    split
    · rename_i same
      simp [same]
    · rfl

theorem fetchAt_sound {P : BlockRange → List Log → Prop} {addresses : List String}
    {policy : RetryPolicy} {answer : LogAnswer} {fetches : List LogFetch}
    (meets : answer.Meets addresses P) (sound : ∀ fetch ∈ fetches, fetch.Sound P) (index : ℕ)
    (counters : IngestionCounters) :
    ∀ fetch ∈ (fetchAt addresses policy answer index fetches counters).1, fetch.Sound P := by
  unfold fetchAt
  split
  · exact sound
  · rename_i fetch found
    intro other mem
    rcases List.mem_or_eq_of_mem_set mem with mem | rfl
    · exact sound other mem
    · exact (sound fetch (List.mem_of_getElem? found)).attempt meets counters

/-- What a planned batch looks like: it tiles the request from where the run is,
for a positive chunk size. -/
theorem planBatch_eq_ok {toBlock chunkSize : ℤ} :
    ∀ {fetchConcurrency : ℕ} {plannedFrom : ℤ} {ranges : List BlockRange},
      planBatch toBlock chunkSize fetchConcurrency plannedFrom = .ok ranges →
        plannedFrom ≤ toBlock + 1 →
        (∃ stop, Tiles BlockRange.fromBlock BlockRange.toBlock plannedFrom ranges stop ∧
          stop ≤ toBlock + 1) ∧ (ranges ≠ [] → 1 ≤ chunkSize) := by
  intro fetchConcurrency
  induction fetchConcurrency with
  | zero =>
      intro plannedFrom ranges planned start
      cases planned
      exact ⟨⟨plannedFrom, rfl, start⟩, fun nonempty => absurd rfl nonempty⟩
  | succ fetchConcurrency ih =>
      intro plannedFrom ranges planned start
      unfold planBatch at planned
      split at planned
      · cases first : planBlockRange plannedFrom toBlock chunkSize with
        | error error => rw [first] at planned; cases planned
        | ok range =>
            rw [first] at planned
            obtain ⟨positive, -, starts, ends⟩ := planBlockRange_eq_ok.mp first
            cases others : planBatch toBlock chunkSize fetchConcurrency (range.toBlock + 1) with
            | error error =>
                change (planBatch toBlock chunkSize fetchConcurrency (range.toBlock + 1) >>= _)
                  = _ at planned
                rw [others] at planned
                cases planned
            | ok rest =>
                change (planBatch toBlock chunkSize fetchConcurrency (range.toBlock + 1) >>= _)
                  = _ at planned
                rw [others] at planned
                cases planned
                obtain ⟨⟨stop, tiles, bounded⟩, -⟩ := ih others (by omega)
                exact ⟨⟨stop, ⟨starts, by omega, tiles⟩, bounded⟩, fun _ => positive⟩
      · cases planned
        exact ⟨⟨plannedFrom, rfl, start⟩, fun nonempty => absurd rfl nonempty⟩

/-- **A step keeps the fetches of the batch sound.** -/
theorem Advance.sound {viem : Viem} {input : RunInput} {s : RunState}
    {r : RunState × List BlockRange} {P : BlockRange → List Log → Prop}
    (step : Advance viem input s r) (meets : input.Meets s.run.options.addresses P)
    (sound : ∀ fetch ∈ s.run.fetchedBatch, fetch.Sound P) :
    ∀ fetch ∈ r.1.run.fetchedBatch, fetch.Sound P := by
  cases step with
  | idle => exact sound
  | planned ranges running unfinished plan =>
      intro fetch mem
      obtain ⟨range, planned, rfl⟩ := List.mem_map.mp mem
      have positive := (planBatch_eq_ok plan (by omega)).2 (List.ne_nil_of_mem planned)
      exact LogFetch.sound_start positive
  | fetched dropped index answer asked =>
      subst asked
      unfold fetchStep
      cases dropped with
      | true => exact sound
      | false => exact fetchAt_sound meets sound index _
  | stopped => exact sound
  | committed answers head rest fetched blocks anchor counters counters' runs outcome _ _ batch =>
      intro fetch mem
      change fetch ∈ (if _ then [] else rest) at mem
      split at mem
      · simp at mem
      · exact sound fetch (batch ▸ List.mem_cons_of_mem head mem)

end UsdpIndexer
