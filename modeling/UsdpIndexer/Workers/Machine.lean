import UsdpIndexer.Analytics.IndexedReuse
import UsdpIndexer.Indexer.System
import UsdpIndexer.Library.AdvisoryLocks
import UsdpIndexer.Workers.Jobs

/-!
# The workers on one database

Any number of processes with one database server between them: its tables and its advisory
locks.  `workerStep` starts a job, lets a worker take its next step, or makes a call of the
analytics for anybody else.

A step of a worker is

* `tryLock` — one `pg_try_advisory_lock`;
* `perform` — its next task, or the way into the `finally` block if there is none.  The task
  `ingestLogs` is the prologue;
* `ingest` — one step of the loop of `ingestLogs`;
* `unlock` — the `finally` block;
* `disconnect` — the connection that holds the lock is lost, without the worker's noticing;
* `crash` — the process is gone, and with it its connections.

Postgres gives back the locks of a session that ends; the pool the worker writes through is
another one, so that a worker whose lock is lost goes on writing.

Events are those of `UsdpIndexer.Indexer.System`, with the number of the worker for the run.
-/

namespace UsdpIndexer

open AdvisoryLocks

/-! ## The state -/

/-- Where a worker is in its code. -/
inductive WorkerPhase
  | locking (refusals : ℕ)
  | working (tasks : List WorkerTask) (invalid : Bool)
  | ingesting (plan : IngestPlan) (run : IngestRun) (tasks : List WorkerTask)
  | leaving
  | stranded
  | ended

namespace WorkerPhase

/-- Between the lock and the `finally` block. -/
def Inside : WorkerPhase → Prop
  | working _ _ | ingesting _ _ _ => True
  | _ => False

/-- The process has not ended. -/
def Live : WorkerPhase → Prop
  | ended => False
  | _ => True

instance : DecidablePred Live
  | ended => isFalse id
  | locking _ | working _ _ | ingesting _ _ _ | leaving | stranded => isTrue trivial

theorem live_of_ne {phase : WorkerPhase} (notEnded : phase ≠ ended) : phase.Live := by
  cases phase with
  | ended => exact notEnded rfl
  | _ => trivial

theorem Inside.live {phase : WorkerPhase} (inside : phase.Inside) : phase.Live := by
  cases phase with
  | ended => exact inside
  | _ => trivial

end WorkerPhase

/-- A worker: its job, the session of the connection that asks for the lock, whether that
connection is still there, and whether it was given the lock. -/
structure Worker where
  job : WorkerJob
  session : ℕ
  connected : Bool
  acquired : Bool
  phase : WorkerPhase

/-- A call of `ingestLogs` that is under way or may still be made. -/
def WorkerPhase.Calls (options : IngestLogsOptions) : WorkerPhase → Prop
  | working tasks _ => ∃ task ∈ tasks, task.Calls options
  | ingesting plan run tasks =>
      options = run.options ∨ options ∈ plan.allOptions ∨ ∃ task ∈ tasks, task.Calls options
  | _ => False

/-- A worker whose connection has just been opened. -/
def Worker.start (job : WorkerJob) (session : ℕ) : Worker :=
  ⟨job, session, true, false,
    if job.lock.isSome then .locking 0 else .working job.tasks false⟩

/-- The key that the worker has been given and that nothing has taken back. -/
def Worker.held (worker : Worker) : Option LockKey :=
  if worker.acquired ∧ worker.connected ∧ worker.phase.Live then worker.job.lock else none

/-- One worker and what it shares with the others. -/
structure WorkerState where
  database : WholeDatabase
  locks : LockTable LockKey ℕ
  worker : Worker

/-- What a task meets. -/
structure TaskAnswers where
  wait : ℕ
  aborted : Bool
  client : SavingsClient
  start : StartAnswers
  faults : Faults
  fault : Option JsError

/-- What a worker may do or meet next. -/
inductive WorkerAction
  | tryLock (failed : Bool)
  | perform (answers : TaskAnswers)
  | ingest (input : RunInput)
  | unlock (failed : Bool)
  | disconnect
  | crash

/-- What a step of a worker comes to: the state, and the range of the chunk if it committed
one. -/
abbrev WorkerMove := WorkerState × List BlockRange

namespace WorkerState

/-- The worker goes on there. -/
def goto (s : WorkerState) (phase : WorkerPhase) : WorkerState :=
  { s with worker := { s.worker with phase } }

/-- The index has become another one. -/
def withIndex (s : WorkerState) (index : Database) : WorkerState :=
  { s with database := { s.database with analytics := { s.database.analytics with index } } }

/-- The index. -/
def index (s : WorkerState) : Database := s.database.analytics.index

/-! ## Locking -/

/-- One turn of the loop that asks for the lock. -/
def tryLockStep (failed : Bool) (key : LockKey) (refusals : ℕ) (s : WorkerState) : WorkerState :=
  let job := s.worker.job
  if failed ∨ ¬ s.worker.connected then
    -- with a pool of its own the worker is inside of its `try` already
    s.goto (if job.ownPool then .leaving else .stranded)
  else
    let (acquired, locks) := s.locks.tryLock s.worker.session key
    if acquired then
      { s with
        locks := locks
        worker := { s.worker with acquired := true, phase := .working job.tasks false } }
    else if refusals + 1 < job.attempts then s.goto (.locking (refusals + 1))
    else s.goto (if job.ownPool then .leaving else .ended)

/-- The `finally` block.  Where the unlock fails, a pool of one's own is ended all the same;
a lent connection is not given back. -/
def unlockStep (failed : Bool) (s : WorkerState) : WorkerState :=
  let session := s.worker.session
  match s.worker.job.lock with
  | none => s.goto .ended
  | some key =>
      if failed ∨ ¬ s.worker.connected then
        if s.worker.job.ownPool then
          { s.goto .ended with locks := s.locks.endSession session }
        else s.goto .stranded
      else { s.goto .ended with locks := s.locks.unlock session key }

/-! ## Ingesting -/

/-- What becomes of an error of `ingestLogs`. -/
def ingestFailed (error : JsError) (plan : IngestPlan) (tasks : List WorkerTask) : WorkerPhase :=
  match plan.retry error with
  | some plan => .working (.ingestLogs plan :: tasks) false
  | none => .leaving

/-- The prologue of `ingestLogs`. -/
def startStep (answers : TaskAnswers) (plan : IngestPlan) (tasks : List WorkerTask)
    (s : WorkerState) : WorkerState :=
  if plan.checksSignal ∧ answers.aborted then s.goto .leaving
  else
    match plan.options? with
    | none => s.goto .leaving
    | some options =>
        match startIngest options answers.start s.index with
        | (.threw error, index) => (s.withIndex index).goto (ingestFailed error plan tasks)
        | (.noop _, index) => (s.withIndex index).goto (.working tasks false)
        | (.running run, index) => (s.withIndex index).goto (.ingesting plan run tasks)

/-- Where a worker is once its run has come to this. -/
def ingestPhase (plan : IngestPlan) (run : IngestRun) (tasks : List WorkerTask) : WorkerPhase :=
  match run.outcome with
  | .waiting => .ingesting plan run tasks
  | .returned progress =>
      if progress.status = .interrupted then .leaving else .working tasks false
  | .threw error => ingestFailed error plan tasks

/-- One step of the loop. -/
def ingestStep (viem : Viem) (input : RunInput) (plan : IngestPlan) (run : IngestRun)
    (tasks : List WorkerTask) (s : WorkerState) : WorkerMove :=
  let next := advance viem input ⟨s.index, run⟩
  ((s.withIndex next.1.database).goto (ingestPhase plan next.1.run tasks), next.2)

/-! ## The other tasks -/

/-- `update indexer_runs set status = 'interrupted' … where status = 'running'`. -/
def interruptRuns (chainId : ℕ) (index : Database) : Database :=
  { index with runs := index.runs.map fun row =>
      if row.chainId = chainId ∧ row.status = .running then
        { row with
          status := .interrupted
          failure := some ("Previous worker stopped before recording a terminal state; " ++
            "resumed from checkpoint.") }
      else row }

end WorkerState

/-- The call of the analytics that a task makes, if it makes one. -/
def WorkerTask.call (answers : TaskAnswers) : WorkerTask → Option DatabaseCall
  | captureSavingsChainSnapshot adapter finalityLag blockNumber =>
      some (.analytics ⟨answers.wait, .captureSavingsChainSnapshot
        ⟨adapter, answers.client, finalityLag, none, some blockNumber⟩⟩)
  | rebuildFlowAnalytics options => some (.rebuildFlowAnalytics options answers.faults)
  | rebuildHolderLedger adapter scope fromBlock toBlock =>
      some (.rebuildHolderLedger adapter scope fromBlock toBlock none answers.fault)
  | calculateSavingsYieldForRange options =>
      some (.analytics ⟨answers.wait, .calculateSavingsYieldForRange options⟩)
  | _ => none

/-- The snapshot that a call captures is invalid. -/
def DatabaseCall.capturesInvalid (db : WholeDatabase) : DatabaseCall → Bool
  | .analytics ⟨wait, .captureSavingsChainSnapshot options⟩ =>
      match captureSavingsChainSnapshot options (db.analytics.wait wait) with
      | .ok ((_, reading), _) => reading.snapshotStatus = .invalid
      | .error _ => false
  | _ => false

section Step

variable (viem : Viem) (keccak256 : String → String) (isAddress : String → Bool)

namespace WorkerState

/-- A call of the analytics; if it throws, the worker leaves. -/
def callStep (call : DatabaseCall) (tasks : List WorkerTask) (invalid : Bool)
    (s : WorkerState) : WorkerState :=
  let (database, errors) := databaseStep viem keccak256 isAddress call s.database
  let s' := { s with database }
  if errors = [] then
    s'.goto (.working tasks (invalid || call.capturesInvalid s.database))
  else s'.goto .leaving

/-- The next task. -/
def performStep (answers : TaskAnswers) (task : WorkerTask) (tasks : List WorkerTask)
    (invalid : Bool) (s : WorkerState) : WorkerState :=
  match task with
  | .interruptRuns chainId =>
      match answers.fault with
      | some _ => s.goto .leaving
      | none => (s.withIndex (interruptRuns chainId s.index)).goto (.working tasks invalid)
  | .checkBoundaries => s.goto (if invalid then .leaving else .working tasks false)
  | .ingestLogs plan => s.startStep answers plan tasks
  | .reuseSavingsHistoryCoverage options =>
      match s.index.reuseSavingsHistoryCoverage options with
      | (.ok (.complete _ _ _ _ _), index) => (s.withIndex index).goto (.working tasks invalid)
      | (_, index) => (s.withIndex index).goto .leaving
  | task =>
      match task.call answers with
      | some call => s.callStep viem keccak256 isAddress call tasks invalid
      | none => s

/-- **One step of a worker.**  A step that is not due changes nothing. -/
def act (action : WorkerAction) (s : WorkerState) : WorkerMove :=
  match s.worker.phase, action with
  | .ended, _ => (s, [])
  | _, .disconnect =>
      ({ s with
          locks := s.locks.endSession s.worker.session
          worker := { s.worker with connected := false } }, [])
  | _, .crash => ({ s.goto .ended with locks := s.locks.endSession s.worker.session }, [])
  | .locking refusals, .tryLock failed =>
      match s.worker.job.lock with
      | some key => (s.tryLockStep failed key refusals, [])
      | none => (s, [])
  | .working [] _, .perform _ => (s.goto .leaving, [])
  | .working (task :: tasks) invalid, .perform answers =>
      (s.performStep viem keccak256 isAddress answers task tasks invalid, [])
  | .ingesting plan run tasks, .ingest input => s.ingestStep viem input plan run tasks
  | .leaving, .unlock failed => (s.unlockStep failed, [])
  | _, _ => (s, [])

end WorkerState

/-! ## What a step can come to -/

/-- **Everything that the next task can come to.** -/
inductive Performed (answers : TaskAnswers) (tasks : List WorkerTask) (s : WorkerState) :
    WorkerTask → WorkerState → Prop
  | left (task : WorkerTask) : Performed answers tasks s task (s.goto .leaving)
  | interrupted (chainId : ℕ) (invalid : Bool) :
      Performed answers tasks s (.interruptRuns chainId)
        ((s.withIndex (WorkerState.interruptRuns chainId s.index)).goto (.working tasks invalid))
  | checked : Performed answers tasks s .checkBoundaries (s.goto (.working tasks false))
  | failed (plan : IngestPlan) (error : JsError) :
      Performed answers tasks s (.ingestLogs plan)
        (s.goto (WorkerState.ingestFailed error plan tasks))
  | noop (plan : IngestPlan) (options : IngestLogsOptions) (due : plan.options? = some options)
      (ordered : options.fromBlock ≤ options.toBlock)
      (finished : options.toBlock
        < resumeBlock options (s.index.checkpoint options.chainId options.scope)) :
      Performed answers tasks s (.ingestLogs plan) (s.goto (.working tasks false))
  | started (plan : IngestPlan) (options : IngestLogsOptions) (finalizedHead : ℤ)
      (due : plan.options? = some options)
      (unfinished : resumeBlock options (s.index.checkpoint options.chainId options.scope)
        ≤ options.toBlock) (ordered : options.fromBlock ≤ options.toBlock) :
      Performed answers tasks s (.ingestLogs plan)
        ((s.withIndex (loopStart options finalizedHead s.index).database).goto
          (.ingesting plan (loopStart options finalizedHead s.index).run tasks))
  | reused (options : ReuseOptions) (invalid : Bool) (report : CoverageReport)
      (verified : verifyCoverage (s.index.reuseSavingsHistoryCoverage options).2
        options.targetScope options.fromBlock options.toBlock options.adapter.chainId
          = .ok report) (complete : report.complete = true) :
      Performed answers tasks s (.reuseSavingsHistoryCoverage options)
        ((s.withIndex (s.index.reuseSavingsHistoryCoverage options).2).goto
          (.working tasks invalid))
  | notReused (options : ReuseOptions) :
      Performed answers tasks s (.reuseSavingsHistoryCoverage options)
        ((s.withIndex (s.index.reuseSavingsHistoryCoverage options).2).goto .leaving)
  | called (task : WorkerTask) (call : DatabaseCall) (phase : WorkerPhase)
      (asks : task.call answers = some call)
      (goesOn : phase = .leaving ∨ ∃ invalid, phase = .working tasks invalid) :
      Performed answers tasks s task
        (WorkerState.goto
          { s with database := (databaseStep viem keccak256 isAddress call s.database).1 } phase)

/-- **Everything that a step can come to.** -/
inductive Moves (s : WorkerState) : WorkerAction → WorkerMove → Prop
  | idle (action : WorkerAction) : Moves s action (s, [])
  | asked (failed : Bool) (key : LockKey) (refusals : ℕ)
      (phase : s.worker.phase = .locking refusals) (lock : s.worker.job.lock = some key) :
      Moves s (.tryLock failed) (s.tryLockStep failed key refusals, [])
  | left (answers : TaskAnswers) (invalid : Bool) (phase : s.worker.phase = .working [] invalid) :
      Moves s (.perform answers) (s.goto .leaving, [])
  | performed (answers : TaskAnswers) (task : WorkerTask) (tasks : List WorkerTask)
      (invalid : Bool) (next : WorkerState)
      (phase : s.worker.phase = .working (task :: tasks) invalid)
      (performed : Performed viem keccak256 isAddress answers tasks s task next) :
      Moves s (.perform answers) (next, [])
  | ingested (input : RunInput) (plan : IngestPlan) (run : IngestRun) (tasks : List WorkerTask)
      (phase : s.worker.phase = .ingesting plan run tasks) :
      Moves s (.ingest input) (s.ingestStep viem input plan run tasks)
  | unlocked (failed : Bool) (phase : s.worker.phase = .leaving) :
      Moves s (.unlock failed) (s.unlockStep failed, [])
  | disconnected (live : s.worker.phase.Live) :
      Moves s .disconnect
        ({ s with
            locks := s.locks.endSession s.worker.session
            worker := { s.worker with connected := false } }, [])
  | crashed (live : s.worker.phase.Live) :
      Moves s .crash ({ s.goto .ended with locks := s.locks.endSession s.worker.session }, [])

variable {viem keccak256 isAddress}

theorem callStep_spec {answers : TaskAnswers} {tasks : List WorkerTask} {task : WorkerTask}
    {call : DatabaseCall} (asks : task.call answers = some call) (invalid : Bool)
    (s : WorkerState) :
    Performed viem keccak256 isAddress answers tasks s task
      (s.callStep viem keccak256 isAddress call tasks invalid) := by
  unfold WorkerState.callStep
  simp only
  split
  · exact .called task call _ asks (.inr ⟨_, rfl⟩)
  · exact .called task call _ asks (.inl rfl)

theorem startStep_spec (answers : TaskAnswers) (plan : IngestPlan) (tasks : List WorkerTask)
    (s : WorkerState) :
    Performed viem keccak256 isAddress answers tasks s (.ingestLogs plan)
      (s.startStep answers plan tasks) := by
  unfold WorkerState.startStep
  split
  · exact .left _
  · cases due : plan.options? with
    | none => exact .left _
    | some options =>
        simp only
        rcases startIngest_spec options answers.start s.index with ⟨error, threw⟩ |
          ⟨progress, noop, -, ordered, nextBlock, finished⟩ |
          ⟨finalizedHead, unfinished, ordered, -, running⟩
        · rw [threw]
          exact .failed plan error
        · rw [noop]
          exact .noop plan options due ordered (nextBlock ▸ finished)
        · rw [running]
          exact .started plan options finalizedHead due unfinished ordered

theorem performStep_spec (answers : TaskAnswers) (task : WorkerTask) (tasks : List WorkerTask)
    (invalid : Bool) (s : WorkerState) :
    Performed viem keccak256 isAddress answers tasks s task
      (s.performStep viem keccak256 isAddress answers task tasks invalid) := by
  unfold WorkerState.performStep
  cases task with
  | interruptRuns chainId =>
      cases answers.fault with
      | some error => exact .left _
      | none => exact .interrupted chainId invalid
  | checkBoundaries =>
      cases invalid with
      | true => exact .left _
      | false => exact .checked
  | ingestLogs plan => exact startStep_spec answers plan tasks s
  | reuseSavingsHistoryCoverage options =>
      have spec := (reuseSavingsHistoryCoverage_spec options s.index).2.2
      simp only
      split
      · rename_i report index result
        rw [result] at spec
        obtain ⟨verified, complete⟩ := spec _ _ _ _ _ rfl
        have reused := @Performed.reused viem keccak256 isAddress answers tasks s options invalid
          report
        rw [result] at reused
        exact reused verified complete
      · rename_i index _ result
        have notReused := @Performed.notReused viem keccak256 isAddress answers tasks s options
        rw [result] at notReused
        exact notReused
  | captureSavingsChainSnapshot adapter finalityLag blockNumber => exact callStep_spec rfl invalid s
  | rebuildFlowAnalytics options => exact callStep_spec rfl invalid s
  | rebuildHolderLedger adapter scope fromBlock toBlock => exact callStep_spec rfl invalid s
  | calculateSavingsYieldForRange options => exact callStep_spec rfl invalid s

/-- **The list is complete.** -/
theorem act_spec (action : WorkerAction) (s : WorkerState) :
    Moves viem keccak256 isAddress s action (s.act viem keccak256 isAddress action) := by
  unfold WorkerState.act
  split
  · exact .idle _
  · rename_i notEnded
    exact .disconnected (WorkerPhase.live_of_ne notEnded)
  · rename_i notEnded
    exact .crashed (WorkerPhase.live_of_ne notEnded)
  · rename_i phase
    cases lock : s.worker.job.lock with
    | none => exact .idle _
    | some key => exact .asked _ key _ phase lock
  · rename_i phase
    exact .left _ _ phase
  · rename_i phase
    exact .performed _ _ _ _ _ phase (performStep_spec _ _ _ _ s)
  · rename_i phase
    exact .ingested _ _ _ _ phase
  · rename_i phase
    exact .unlocked _ phase
  · exact .idle _

/-- Where a worker is after it has asked for its lock. -/
theorem phase_tryLockStep (failed : Bool) (key : LockKey) (refusals : ℕ) (s : WorkerState) :
    (s.tryLockStep failed key refusals).worker.phase ∈
      [.locking (refusals + 1), .working s.worker.job.tasks false, .leaving, .stranded,
        .ended] := by
  unfold WorkerState.tryLockStep WorkerState.goto
  simp only
  split
  · cases s.worker.job.ownPool <;> simp
  · split
    · simp
    · split
      · simp
      · cases s.worker.job.ownPool <;> simp

/-- Where a worker is after its `finally` block. -/
theorem phase_unlockStep (failed : Bool) (s : WorkerState) :
    (s.unlockStep failed).worker.phase ∈ [.stranded, .ended] := by
  unfold WorkerState.unlockStep WorkerState.goto
  simp only
  split
  · simp
  · split
    · split <;> simp
    · simp

/-- Asking for a lock does not touch the tables. -/
theorem tryLockStep_database (failed : Bool) (key : LockKey) (refusals : ℕ) (s : WorkerState) :
    (s.tryLockStep failed key refusals).database = s.database := by
  unfold WorkerState.tryLockStep
  simp only
  split
  · rfl
  · split
    · rfl
    · split <;> rfl

theorem unlockStep_database (failed : Bool) (s : WorkerState) :
    (s.unlockStep failed).database = s.database := by
  unfold WorkerState.unlockStep
  simp only
  split
  · rfl
  · split
    · split <;> rfl
    · rfl

/-! ## The system -/

/-- The database, the locks that are held, and the workers. -/
structure WorkerSystem where
  database : WholeDatabase
  locks : LockTable LockKey ℕ
  workers : List Worker

/-- The server before anybody has come. -/
def WorkerSystem.boot (database : WholeDatabase) : WorkerSystem := ⟨database, .empty, []⟩

/-- A worker is started or goes on, or something else calls the database. -/
inductive WorkerInput
  | spawn (job : WorkerJob) (session : ℕ)
  | act (worker : ℕ) (action : WorkerAction)
  | call (call : DatabaseCall)

/-- The events of a step of the worker with this number. -/
def workerEvents (index : ℕ) (before after : Worker) (committed : List BlockRange) :
    List SystemEvent :=
  match before.phase, after.phase with
  | .working _ _, .ingesting _ run _ => [.started index run.options.lane]
  | .ingesting _ run _, _ => committed.map (.committed index run.options.lane ·)
  | _, _ => []

theorem workerEvents_ingesting {index : ℕ} {before : Worker} {plan : IngestPlan} {run : IngestRun}
    {tasks : List WorkerTask} (phase : before.phase = .ingesting plan run tasks) (after : Worker)
    (committed : List BlockRange) :
    workerEvents index before after committed
      = committed.map (.committed index run.options.lane ·) := by
  unfold workerEvents
  rw [phase]

/-- Start a job on a connection that no worker uses, let a worker take a step, or make a call
for somebody else. -/
def workerStep (viem : Viem) (keccak256 : String → String) (isAddress : String → Bool)
    (input : WorkerInput) (s : WorkerSystem) : WorkerSystem × List SystemEvent :=
  match input with
  | .spawn job session =>
      if ∃ worker ∈ s.workers, worker.phase.Live ∧ worker.session = session then (s, [])
      else ({ s with workers := s.workers ++ [.start job session] }, [])
  | .act index action =>
      match s.workers[index]? with
      | none => (s, [])
      | some worker =>
          let (next, committed) :=
            WorkerState.act viem keccak256 isAddress action ⟨s.database, s.locks, worker⟩
          (⟨next.database, next.locks, s.workers.set index next.worker⟩,
            workerEvents index worker next.worker committed)
  | .call call =>
      ({ s with database := (databaseStep viem keccak256 isAddress call s.database).1 }, [])

end Step

/-- **What a step of the system can come to**: nothing, a new worker, a step of a worker, or a
call for somebody else. -/
theorem workerStep_spec (viem : Viem) (keccak256 : String → String) (isAddress : String → Bool)
    (input : WorkerInput) (s : WorkerSystem) :
    workerStep viem keccak256 isAddress input s = (s, []) ∨
    (∃ job session, input = .spawn job session ∧
      (¬ ∃ worker ∈ s.workers, worker.phase.Live ∧ worker.session = session) ∧
      workerStep viem keccak256 isAddress input s
        = ({ s with workers := s.workers ++ [.start job session] }, [])) ∨
    (∃ index action worker next, input = .act index action ∧ s.workers[index]? = some worker ∧
      Moves viem keccak256 isAddress ⟨s.database, s.locks, worker⟩ action next ∧
      workerStep viem keccak256 isAddress input s
        = (⟨next.1.database, next.1.locks, s.workers.set index next.1.worker⟩,
          workerEvents index worker next.1.worker next.2)) ∨
    ∃ call, input = .call call ∧ workerStep viem keccak256 isAddress input s
      = ({ s with database := (databaseStep viem keccak256 isAddress call s.database).1 }, []) := by
  cases input with
  | spawn job session =>
      unfold workerStep
      simp only
      split
      · exact .inl rfl
      · rename_i unused
        exact .inr (.inl ⟨job, session, rfl, unused, rfl⟩)
  | act index action =>
      unfold workerStep
      simp only
      split
      · exact .inl rfl
      · rename_i worker found
        exact .inr (.inr (.inl ⟨index, action, worker, _, rfl, found, act_spec action _, rfl⟩))
  | call call => exact .inr (.inr (.inr ⟨call, rfl, rfl⟩))

/-! ## What a worker may call -/

section Calls

variable {viem : Viem} {keccak256 : String → String} {isAddress : String → Bool}
  {s : WorkerState} {options : IngestLogsOptions}

theorem calls_ingestFailed {error : JsError} {plan : IngestPlan} {tasks : List WorkerTask}
    (calls : (WorkerState.ingestFailed error plan tasks).Calls options) :
    options ∈ plan.allOptions ∨ ∃ task ∈ tasks, task.Calls options := by
  unfold WorkerState.ingestFailed at calls
  cases retried : plan.retry error with
  | none =>
      rw [retried] at calls
      exact calls.elim
  | some plan' =>
      rw [retried] at calls
      obtain ⟨task, mem, calls⟩ := calls
      rcases List.mem_cons.mp mem with rfl | later
      · exact .inl (IngestPlan.allOptions_retry retried calls)
      · exact .inr ⟨task, later, calls⟩

theorem calls_ingestPhase {plan : IngestPlan} {run : IngestRun} {tasks : List WorkerTask}
    (calls : (WorkerState.ingestPhase plan run tasks).Calls options) :
    options = run.options ∨ options ∈ plan.allOptions ∨ ∃ task ∈ tasks, task.Calls options := by
  unfold WorkerState.ingestPhase at calls
  cases outcome : run.outcome with
  | waiting =>
      rw [outcome] at calls
      exact calls
  | returned progress =>
      rw [outcome] at calls
      simp only at calls
      split at calls
      · exact calls.elim
      · exact .inr (.inr calls)
  | threw error =>
      rw [outcome] at calls
      exact .inr (calls_ingestFailed calls)

/-- What is left to call after a task was left to call before. -/
theorem Performed.calls {answers : TaskAnswers} {tasks : List WorkerTask} {task : WorkerTask}
    {next : WorkerState}
    (performed : Performed viem keccak256 isAddress answers tasks s task next)
    (calls : next.worker.phase.Calls options) : ∃ other ∈ task :: tasks, other.Calls options := by
  have later (calls : ∃ other ∈ tasks, other.Calls options) :
      ∃ other ∈ task :: tasks, other.Calls options := by
    obtain ⟨other, mem, calls⟩ := calls
    exact ⟨other, List.mem_cons_of_mem _ mem, calls⟩
  cases performed with
  | left => exact calls.elim
  | interrupted chainId invalid => exact later calls
  | checked => exact later calls
  | failed plan error =>
      rcases calls_ingestFailed calls with own | others
      · exact ⟨_, List.mem_cons_self, own⟩
      · exact later others
  | noop plan options' due => exact later calls
  | started plan options' finalizedHead due =>
      rcases calls with rfl | own | others
      · exact ⟨_, List.mem_cons_self, IngestPlan.mem_allOptions due⟩
      · exact ⟨_, List.mem_cons_self, own⟩
      · exact later others
  | reused options' invalid report verified complete => exact later calls
  | notReused options' => exact calls.elim
  | called task call phase asks goesOn =>
      rcases goesOn with rfl | ⟨invalid, rfl⟩
      · exact calls.elim
      · exact later calls

/-- **A worker calls what it was going to call**, or the tasks of its job. -/
theorem Moves.calls {action : WorkerAction} {next : WorkerMove}
    (move : Moves viem keccak256 isAddress s action next)
    (calls : next.1.worker.phase.Calls options) :
    s.worker.phase.Calls options ∨ s.worker.job.Calls options := by
  cases move with
  | idle action => exact .inl calls
  | asked failed key refusals phase lock =>
      have there := phase_tryLockStep failed key refusals s
      generalize (s.tryLockStep failed key refusals).worker.phase = phase' at calls there
      simp only [List.mem_cons, List.not_mem_nil, or_false] at there
      rcases there with rfl | rfl | rfl | rfl | rfl
      · exact calls.elim
      · exact .inr calls
      · exact calls.elim
      · exact calls.elim
      · exact calls.elim
  | left answers invalid phase => exact calls.elim
  | performed answers task tasks invalid next phase performed =>
      rw [phase]
      exact .inl (performed.calls calls)
  | ingested input plan run tasks phase =>
      rw [phase]
      rcases calls_ingestPhase calls with own | others
      · exact .inl (.inl (own.trans (advance_spec viem input _).options_eq))
      · exact .inl (.inr others)
  | unlocked failed phase =>
      have there := phase_unlockStep failed s
      generalize (s.unlockStep failed).worker.phase = phase' at calls there
      simp only [List.mem_cons, List.not_mem_nil, or_false] at there
      rcases there with rfl | rfl
      · exact calls.elim
      · exact calls.elim
  | disconnected live => exact .inl calls
  | crashed live => exact calls.elim

end Calls

section Job

variable {viem : Viem} {keccak256 : String → String} {isAddress : String → Bool}
  {s : WorkerState}

/-- A worker keeps its job. -/
theorem Moves.job_eq {action : WorkerAction} {next : WorkerMove}
    (move : Moves viem keccak256 isAddress s action next) :
    next.1.worker.job = s.worker.job := by
  cases move with
  | asked failed key refusals phase lock =>
      unfold WorkerState.tryLockStep
      simp only
      split
      · rfl
      · split
        · rfl
        · split <;> rfl
  | performed answers task tasks invalid next phase performed =>
      cases performed <;> rfl
  | unlocked failed phase =>
      unfold WorkerState.unlockStep
      simp only
      split
      · rfl
      · split
        · split <;> rfl
        · rfl
  | _ => rfl

/-- A connection is only lost where that is the step. -/
theorem Moves.connected_eq {action : WorkerAction} {next : WorkerMove}
    (move : Moves viem keccak256 isAddress s action next) (stays : action ≠ .disconnect) :
    next.1.worker.connected = s.worker.connected := by
  cases move with
  | asked failed key refusals phase lock =>
      unfold WorkerState.tryLockStep
      simp only
      split
      · rfl
      · split
        · rfl
        · split <;> rfl
  | performed answers task tasks invalid next phase performed =>
      cases performed <;> rfl
  | unlocked failed phase =>
      unfold WorkerState.unlockStep
      simp only
      split
      · rfl
      · split
        · split <;> rfl
        · rfl
  | disconnected live => exact absurd rfl stays
  | _ => rfl

end Job

/-! ## What the calls of the analytics leave alone -/

/-- A call that is not a chunk of the indexer. -/
def DatabaseCall.IndexesNothing : DatabaseCall → Prop
  | .analytics ⟨_, .persistChunk _ _ _⟩ => False
  | _ => True

/-- The tasks of the workers index nothing but through `ingestLogs`. -/
theorem WorkerTask.indexesNothing {answers : TaskAnswers} {task : WorkerTask}
    {call : DatabaseCall} (asks : task.call answers = some call) : call.IndexesNothing := by
  cases task with
  | captureSavingsChainSnapshot adapter finalityLag blockNumber =>
      cases asks
      trivial
  | rebuildFlowAnalytics options =>
      cases asks
      trivial
  | rebuildHolderLedger adapter scope fromBlock toBlock =>
      cases asks
      trivial
  | calculateSavingsYieldForRange options =>
      cases asks
      trivial
  | _ => cases asks

/-- Effects that are not a chunk leave the index as it is, but for blocks. -/
theorem Effect.index_eq {db db' : AnalyticsDatabase} {call : AnalyticsCall}
    (effect : Effect db call db')
    (other : ∀ fault chunk counters, call ≠ .persistChunk fault chunk counters) :
    ∃ blocks, db'.index = { db.index with blocks } := by
  cases effect with
  | indexed fault chunk counters index => exact absurd rfl (other fault chunk counters)
  | _ => exact ⟨_, rfl⟩

/-- **A call that indexes nothing adds blocks to the index, and nothing else.** -/
theorem databaseStep_index {viem : Viem} {keccak256 : String → String}
    {isAddress : String → Bool} {call : DatabaseCall} (quiet : call.IndexesNothing)
    (db : WholeDatabase) :
    ∃ blocks, (databaseStep viem keccak256 isAddress call db).1.analytics.index
      = { db.analytics.index with blocks } := by
  cases call with
  | analytics input =>
      obtain ⟨wait, call⟩ := input
      have other : ∀ fault chunk counters, call ≠ .persistChunk fault chunk counters := by
        rintro fault chunk counters rfl
        exact quiet
      show ∃ blocks, (analyticsStep viem keccak256 ⟨wait, call⟩ db.analytics).1.index = _
      rcases @analyticsStep_effect viem keccak256 ⟨wait, call⟩ db.analytics with effect | idle
      · exact effect.index_eq other
      · rw [idle]
        exact ⟨_, rfl⟩
  | rebuildFlowAnalytics options faults => exact ⟨_, rfl⟩
  | rebuildHolderLedger adapter scope fromBlock toBlock calculationVersion fault => exact ⟨_, rfl⟩

end UsdpIndexer
