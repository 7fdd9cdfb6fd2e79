import UsdpIndexer.Indexer.Interleaving
import UsdpIndexer.Workers.Exclusion

/-!
# Guarded lanes

A lane is guarded if no job writes to it without its lock, and no worker that holds the lock
loses the connection it holds it with.  Processes may die at any point, and be followed by
others; a lock that cannot be given back stays.

On a guarded lane the workers commit as one run would: every chunk begins behind all chunks
that were committed before, by whichever worker, and the resume point never goes back
(`guarded_lane_commits_once`).
-/

namespace UsdpIndexer

open AdvisoryLocks IntegerCover

/-! ## What a step does to the index -/

/-- The checkpoints are as they were, and no coverage is lost. -/
structure Database.Kept (db db' : Database) : Prop where
  checkpoints : db'.checkpoints = db.checkpoints
  coverage : db.coverage ⊆ db'.coverage

theorem Database.Kept.refl (db : Database) : db.Kept db := ⟨rfl, List.Subset.refl _⟩

theorem Database.Kept.resumePoint {db db' : Database} (kept : db.Kept db') (lane : Lane) :
    db'.resumePoint lane = db.resumePoint lane := by
  simp only [Database.resumePoint, Database.nextBlock, Database.checkpoint, kept.checkpoints]

theorem Database.Kept.lastCompleted {db db' : Database} (kept : db.Kept db') (lane : Lane) :
    db'.lastCompleted lane = db.lastCompleted lane := by
  simp only [Database.lastCompleted, Database.checkpoint, kept.checkpoints]

/-- **What a step of a worker can do to the index**: nothing that matters to a checkpoint, the
start of a run, or a step of one. -/
inductive Indexing (viem : Viem) (s : WorkerState) : WorkerAction → WorkerMove → Prop
  | quiet (action : WorkerAction) (next : WorkerState) (kept : s.index.Kept next.index)
      (phase : ∀ plan run tasks, next.worker.phase = .ingesting plan run tasks →
        s.worker.phase = .ingesting plan run tasks) : Indexing viem s action (next, [])
  | started (answers : TaskAnswers) (plan : IngestPlan) (options : IngestLogsOptions)
      (finalizedHead : ℤ)
      (tasks : List WorkerTask)
      (unfinished : resumeBlock options (s.index.checkpoint options.chainId options.scope)
        ≤ options.toBlock) :
      Indexing viem s (.perform answers)
        ((s.withIndex (loopStart options finalizedHead s.index).database).goto
          (.ingesting plan (loopStart options finalizedHead s.index).run tasks), [])
  | advanced (input : RunInput) (plan : IngestPlan) (run : IngestRun) (tasks : List WorkerTask)
      (next : RunState × List BlockRange) (phase : s.worker.phase = .ingesting plan run tasks)
      (step : Advance viem input ⟨s.index, run⟩ next) :
      Indexing viem s (.ingest input)
        ((s.withIndex next.1.database).goto (WorkerState.ingestPhase plan next.1.run tasks), next.2)

section Worker

variable {viem : Viem} {keccak256 : String → String} {isAddress : String → Bool}
  {s : WorkerState}

theorem Performed.indexing {answers : TaskAnswers} {tasks : List WorkerTask} {task : WorkerTask}
    {next : WorkerState}
    (performed : Performed viem keccak256 isAddress answers tasks s task next) :
    Indexing viem s (.perform answers) (next, []) := by
  have handed (options : ReuseOptions) :
      s.index.Kept (s.index.reuseSavingsHistoryCoverage options).2 := by
    obtain ⟨added, grown, -⟩ := (reuseSavingsHistoryCoverage_spec options s.index).1.grown
    rw [grown]
    exact ⟨rfl, List.subset_append_left _ _⟩
  cases performed with
  | left => exact .quiet _ _ (.refl _) fun _ _ _ at_ => by cases at_
  | interrupted chainId invalid =>
      exact .quiet _ _ ⟨rfl, List.Subset.refl _⟩ fun _ _ _ at_ => by cases at_
  | checked => exact .quiet _ _ (.refl _) fun _ _ _ at_ => by cases at_
  | failed plan error =>
      refine .quiet _ _ (.refl _) fun _ _ _ at_ => ?_
      change WorkerState.ingestFailed error plan tasks = _ at at_
      unfold WorkerState.ingestFailed at at_
      split at at_
      · cases at_
      · cases at_
  | noop plan options due => exact .quiet _ _ (.refl _) fun _ _ _ at_ => by cases at_
  | started plan options finalizedHead due unfinished =>
      exact .started answers plan options finalizedHead tasks unfinished
  | reused options invalid => exact .quiet _ _ (handed options) fun _ _ _ at_ => by cases at_
  | notReused options => exact .quiet _ _ (handed options) fun _ _ _ at_ => by cases at_
  | called task call phase asks goesOn =>
      obtain ⟨blocks, same⟩ := @databaseStep_index viem keccak256 isAddress call
        (WorkerTask.indexesNothing asks) s.database
      refine .quiet _ _ ?_ fun _ _ _ at_ => ?_
      · show s.database.analytics.index.Kept (databaseStep _ _ _ _ _).1.analytics.index
        rw [same]
        exact ⟨rfl, List.Subset.refl _⟩
      · change phase = _ at at_
        rcases goesOn with rfl | ⟨invalid, rfl⟩
        · cases at_
        · cases at_

theorem Moves.indexing {action : WorkerAction} {next : WorkerMove}
    (move : Moves viem keccak256 isAddress s action next) : Indexing viem s action next := by
  cases move with
  | idle action => exact .quiet _ _ (.refl _) fun _ _ _ at_ => at_
  | asked failed key refusals phase lock =>
      have there := phase_tryLockStep failed key refusals s
      have same : (s.tryLockStep failed key refusals).index = s.index :=
        congrArg (·.analytics.index) (tryLockStep_database failed key refusals s)
      refine .quiet _ _ (same ▸ .refl _) fun plan run tasks at_ => ?_
      simp [at_] at there
  | left answers invalid phase => exact .quiet _ _ (.refl _) fun _ _ _ at_ => by cases at_
  | performed answers task tasks invalid next phase performed => exact performed.indexing
  | ingested input plan run tasks phase =>
      exact .advanced input plan run tasks _ phase (advance_spec viem input _)
  | unlocked failed phase =>
      have there := phase_unlockStep failed s
      have same : (s.unlockStep failed).index = s.index :=
        congrArg (·.analytics.index) (unlockStep_database failed s)
      refine .quiet _ _ (same ▸ .refl _) fun plan run tasks at_ => ?_
      simp [at_] at there
  | disconnected live => exact .quiet _ _ (.refl _) fun _ _ _ at_ => at_
  | crashed live => exact .quiet _ _ (.refl _) fun _ _ _ at_ => by cases at_

end Worker

/-! ## The promise -/

/-- The block provider is truthful. -/
def WorkerAction.Truthful : WorkerAction → Prop
  | .ingest input => input.Truthful
  | _ => True

/-- What is promised of a guarded lane: the jobs are those there are, and do not write to the
lane without a lock; and a worker that may write to it keeps its connection. -/
def GuardedInput (hashtext : String → ℤ) (lane : Lane) (input : WorkerInput) (s : WorkerSystem) :
    Prop :=
  match input with
  | .spawn job _ => job.Deployed hashtext ∧ (job.Ingests lane → job.lock ≠ none)
  | .act index action =>
      (action = .disconnect → ∀ worker ∈ s.workers[index]?, ¬ worker.job.Ingests lane) ∧
        action.Truthful
  | .call call => call.IndexesNothing

/-! ## The invariant -/

/-- A run on the lane has not been overtaken. -/
def WorkerPhase.Ahead (lane : Lane) (db : Database) : WorkerPhase → Prop
  | .ingesting _ run _ => run.Planned ∧
      (run.options.lane = lane → ∀ next ∈ db.resumePoint lane, next ≤ run.nextBlock)
  | _ => True

/-- Whoever may write to the lane does so under its key. -/
structure Guards (hashtext : String → ℤ) (lane : Lane) (s : WorkerSystem) : Prop where
  orderly : Orderly s
  deployed : ∀ worker ∈ s.workers, worker.job.Deployed hashtext ∧
    (worker.job.Ingests lane → worker.job.lock ≠ none)
  follows : ∀ worker ∈ s.workers, ∀ options, worker.phase.Calls options →
    worker.job.Calls options
  connected : ∀ worker ∈ s.workers, worker.job.Ingests lane → worker.connected = true

/-- **Only one worker at a time writes to the lane**, and it writes behind all that has been
written. -/
structure Guarded (hashtext : String → ℤ) (lane : Lane) (s : WorkerSystem)
    (trace : List SystemEvent) : Prop where
  guards : Guards hashtext lane s
  ahead : ∀ worker ∈ s.workers, worker.phase.Ahead lane s.database.analytics.index
  below : s.database.analytics.index.AnchorBelow lane
  sorted : (commitsOn lane trace).Pairwise fun earlier later => earlier.toBlock < later.fromBlock
  behind : ∀ range ∈ commitsOn lane trace,
    ∃ next ∈ s.database.analytics.index.resumePoint lane, range.toBlock < next

theorem Guarded.boot {hashtext : String → ℤ} {lane : Lane} {database : WholeDatabase}
    (below : database.analytics.index.AnchorBelow lane) :
    Guarded hashtext lane (.boot database) [] where
  guards :=
    { orderly := .boot database
      deployed := fun _ mem => absurd mem List.not_mem_nil
      follows := fun _ mem => absurd mem List.not_mem_nil
      connected := fun _ mem => absurd mem List.not_mem_nil }
  ahead := fun _ mem => absurd mem List.not_mem_nil
  below := below
  sorted := .nil
  behind := fun _ mem => absurd mem List.not_mem_nil

theorem WorkerPhase.ahead_ingestPhase {lane : Lane} {db : Database} {run : IngestRun}
    (planned : run.Planned)
    (ahead : run.options.lane = lane → ∀ next ∈ db.resumePoint lane, next ≤ run.nextBlock)
    (plan : IngestPlan) (tasks : List WorkerTask) :
    (WorkerState.ingestPhase plan run tasks).Ahead lane db := by
  unfold WorkerState.ingestPhase WorkerState.ingestFailed
  split
  · exact ⟨planned, ahead⟩
  · split <;> trivial
  · split <;> trivial

/-- Whoever does not move is as far ahead as the resume point leaves it. -/
theorem WorkerPhase.Ahead.congr {lane : Lane} {db db' : Database} {phase : WorkerPhase}
    (ahead : phase.Ahead lane db) (same : db'.resumePoint lane = db.resumePoint lane) :
    phase.Ahead lane db' := by
  cases phase with
  | ingesting plan run tasks =>
      refine ⟨ahead.1, fun onLane next mem => ahead.2 onLane next ?_⟩
      rw [← same]
      exact mem
  | _ => trivial

theorem commitsOn_quiet (lane : Lane) (index : ℕ) (before after : Worker) :
    commitsOn lane (workerEvents index before after []) = [] := by
  unfold workerEvents
  split <;> rfl

section Step

variable {viem : Viem} {keccak256 : String → String} {isAddress : String → Bool}
  {hashtext : String → ℤ} {lane : Lane} {s : WorkerSystem} {trace : List SystemEvent}

/-- A worker on the lane holds its key. -/
theorem Guards.held (guards : Guards hashtext lane s) {worker : Worker}
    (mem : worker ∈ s.workers) {plan : IngestPlan} {run : IngestRun} {tasks : List WorkerTask}
    (phase : worker.phase = .ingesting plan run tasks) (onLane : run.options.lane = lane) :
    worker.held = some (laneKey hashtext lane) := by
  have calls : worker.phase.Calls run.options := by
    rw [phase]
    exact .inl rfl
  have ingests : worker.job.Ingests lane :=
    ⟨run.options, guards.follows worker mem run.options calls, onLane⟩
  obtain ⟨deployed, locks⟩ := guards.deployed worker mem
  have inside : worker.phase.Inside := by rw [phase]; trivial
  rw [(guards.orderly.honest worker mem).held_eq inside (guards.connected worker mem ingests)]
  exact deployed.lock_eq ingests (locks ingests)

/-- **No two workers are on the lane at once.** -/
theorem Guards.alone (guards : Guards hashtext lane s) {i j : ℕ} {worker other : Worker}
    (found : s.workers[i]? = some worker) (found' : s.workers[j]? = some other)
    {plan plan' : IngestPlan} {run run' : IngestRun} {tasks tasks' : List WorkerTask}
    (phase : worker.phase = .ingesting plan run tasks)
    (phase' : other.phase = .ingesting plan' run' tasks')
    (onLane : run.options.lane = lane) (onLane' : run'.options.lane = lane) : i = j :=
  guards.orderly.eq_of_held found found'
    (guards.held (List.mem_of_getElem? found) phase onLane)
    (guards.held (List.mem_of_getElem? found') phase' onLane')

/-- Where a worker starts. -/
theorem Worker.phase_start (job : WorkerJob) (session : ℕ) :
    (Worker.start job session).phase = .locking 0 ∨
      (Worker.start job session).phase = .working job.tasks false := by
  unfold Worker.start
  cases job.lock with
  | none => exact .inr rfl
  | some key => exact .inl rfl

/-- A new worker. -/
theorem Guarded.spawn (guarded : Guarded hashtext lane s trace) {job : WorkerJob} {session : ℕ}
    (deployed : job.Deployed hashtext ∧ (job.Ingests lane → job.lock ≠ none))
    (orderly : Orderly { s with workers := s.workers ++ [.start job session] }) :
    Guarded hashtext lane { s with workers := s.workers ++ [.start job session] } trace := by
  have starts := Worker.phase_start job session
  refine ⟨⟨orderly, ?_, ?_, ?_⟩, ?_, guarded.below, guarded.sorted, guarded.behind⟩ <;>
    intro worker mem <;> rcases List.mem_append.mp mem with old | new
  · exact guarded.guards.deployed worker old
  · obtain rfl := List.mem_singleton.mp new
    exact deployed
  · exact guarded.guards.follows worker old
  · obtain rfl := List.mem_singleton.mp new
    intro options calls
    rcases starts with phase | phase
    · rw [phase] at calls
      exact calls.elim
    · rw [phase] at calls
      exact calls
  · exact guarded.guards.connected worker old
  · obtain rfl := List.mem_singleton.mp new
    exact fun _ => rfl
  · exact guarded.ahead worker old
  · obtain rfl := List.mem_singleton.mp new
    rcases starts with phase | phase <;> rw [phase] <;> trivial

/-- A worker has moved. -/
theorem Guards.moved (guards : Guards hashtext lane s) {index : ℕ} {worker : Worker}
    (found : s.workers[index]? = some worker) {action : WorkerAction} {next : WorkerMove}
    (move : Moves viem keccak256 isAddress ⟨s.database, s.locks, worker⟩ action next)
    (orderly : Orderly ⟨next.1.database, next.1.locks, s.workers.set index next.1.worker⟩)
    (stays : action = .disconnect → ¬ worker.job.Ingests lane) :
    Guards hashtext lane ⟨next.1.database, next.1.locks, s.workers.set index next.1.worker⟩ := by
  have mem := List.mem_of_getElem? found
  have job : next.1.worker.job = worker.job := move.job_eq
  refine ⟨orderly, ?_, ?_, ?_⟩
  · intro other hother
    rcases List.mem_or_eq_of_mem_set hother with old | rfl
    · exact guards.deployed other old
    · rw [job]
      exact guards.deployed worker mem
  · intro other hother options calls
    rcases List.mem_or_eq_of_mem_set hother with old | rfl
    · exact guards.follows other old options calls
    · rw [job]
      exact (move.calls calls).elim (guards.follows worker mem options) id
  · intro other hother ingests
    rcases List.mem_or_eq_of_mem_set hother with old | rfl
    · exact guards.connected other old ingests
    · rw [job] at ingests
      rw [move.connected_eq fun lost => stays lost ingests]
      exact guards.connected worker mem ingests

/-- Nothing has been committed to the lane. -/
theorem Guarded.quiet (guarded : Guarded hashtext lane s trace) {index : ℕ} {next : WorkerState}
    (guards : Guards hashtext lane
      ⟨next.database, next.locks, s.workers.set index next.worker⟩)
    (point : next.index.resumePoint lane = s.database.analytics.index.resumePoint lane)
    (last : next.index.lastCompleted lane = s.database.analytics.index.lastCompleted lane)
    (ahead : next.worker.phase.Ahead lane next.index) {events : List SystemEvent}
    (none : commitsOn lane events = []) :
    ResumePointLe lane s.database.analytics.index next.index ∧
      Guarded hashtext lane ⟨next.database, next.locks, s.workers.set index next.worker⟩
        (trace ++ events) := by
  refine ⟨.of_eq point, guards, fun other mem => ?_, ?_, ?_, ?_⟩
  · rcases List.mem_or_eq_of_mem_set mem with old | rfl
    · exact (guarded.ahead other old).congr point
    · exact ahead
  · show ∀ l ∈ next.index.lastCompleted lane, ∀ n ∈ next.index.resumePoint lane, l < n
    rw [last, point]
    exact guarded.below
  · rw [commitsOn_append, none, List.append_nil]
    exact guarded.sorted
  · rw [commitsOn_append, none, List.append_nil]
    show ∀ range ∈ commitsOn lane trace, ∃ n ∈ next.index.resumePoint lane, _
    rw [point]
    exact guarded.behind

/-- **A chunk has been committed to the lane**, by the one worker that is there. -/
theorem Guarded.commit (guarded : Guarded hashtext lane s trace) {index : ℕ} {worker : Worker}
    (found : s.workers[index]? = some worker) {plan : IngestPlan} {run : IngestRun}
    {tasks : List WorkerTask} (phase : worker.phase = .ingesting plan run tasks)
    (onLane : run.options.lane = lane) {next : WorkerState} {range : BlockRange}
    (guards : Guards hashtext lane
      ⟨next.database, next.locks, s.workers.set index next.worker⟩)
    (begins : range.fromBlock = run.nextBlock) (nonempty : run.nextBlock ≤ range.toBlock)
    (moved : next.index.resumePoint lane = some (range.toBlock + 1))
    (anchor : next.index.lastCompleted lane = some range.toBlock ∨
      next.index.lastCompleted lane = s.database.analytics.index.lastCompleted lane)
    (ahead : next.worker.phase.Ahead lane next.index) :
    ResumePointLe lane s.database.analytics.index next.index ∧
      Guarded hashtext lane ⟨next.database, next.locks, s.workers.set index next.worker⟩
        (trace ++ [.committed index lane range]) := by
  have before : worker.phase.Ahead lane s.database.analytics.index :=
    guarded.ahead worker (List.mem_of_getElem? found)
  rw [phase] at before
  have seen : ∀ stored ∈ s.database.analytics.index.resumePoint lane, stored ≤ range.fromBlock :=
    fun stored mem => (before.2 onLane stored mem).trans begins.ge
  have added : commitsOn lane [.committed index lane range] = [range] := by simp [commitsOn]
  refine ⟨fun stored mem => ⟨_, moved, by have := seen stored mem; omega⟩, guards,
    fun other mem => ?_, ?_, ?_, ?_⟩
  · obtain ⟨i, at_⟩ := List.mem_iff_getElem?.mp mem
    rcases getElem?_set_worker found at_ with ⟨-, rfl⟩ | ⟨different, old⟩
    · exact ahead
    · -- nobody else is on the lane
      have planned := guarded.ahead other (List.mem_of_getElem? old)
      cases there : other.phase with
      | ingesting plan' run' tasks' =>
          rw [there] at planned
          refine ⟨planned.1, fun onLane' => absurd ?_ different⟩
          exact guarded.guards.alone old found there phase onLane' onLane
      | _ => trivial
  · intro last hlast point hpoint
    change next.index.lastCompleted lane = some last at hlast
    change next.index.resumePoint lane = some point at hpoint
    rw [moved, Option.some.injEq] at hpoint
    rcases anchor with new | old
    · rw [new, Option.some.injEq] at hlast
      omega
    · rw [old] at hlast
      obtain ⟨stored, hstored⟩ := Database.resumePoint_of_lastCompleted hlast
      have below := guarded.below last hlast stored hstored
      have := seen stored hstored
      omega
  · rw [commitsOn_append, added, List.pairwise_append]
    refine ⟨guarded.sorted, List.pairwise_singleton _ _, fun earlier mem later hlater => ?_⟩
    obtain rfl := List.mem_singleton.mp hlater
    obtain ⟨stored, hstored, lt⟩ := guarded.behind earlier mem
    have := seen stored hstored
    omega
  · rw [commitsOn_append, added]
    intro range' mem
    refine ⟨_, moved, ?_⟩
    rcases List.mem_append.mp mem with old | new
    · obtain ⟨stored, hstored, lt⟩ := guarded.behind range' old
      have := seen stored hstored
      omega
    · obtain rfl := List.mem_singleton.mp new
      omega

/-- **One step of a worker.** -/
theorem Guarded.act (guarded : Guarded hashtext lane s trace) {index : ℕ} {worker : Worker}
    (found : s.workers[index]? = some worker) {action : WorkerAction} {next : WorkerMove}
    (move : Moves viem keccak256 isAddress ⟨s.database, s.locks, worker⟩ action next)
    (guards : Guards hashtext lane
      ⟨next.1.database, next.1.locks, s.workers.set index next.1.worker⟩)
    (truthful : action.Truthful) :
    ResumePointLe lane s.database.analytics.index next.1.index ∧
      Guarded hashtext lane
        ⟨next.1.database, next.1.locks, s.workers.set index next.1.worker⟩
        (trace ++ workerEvents index worker next.1.worker next.2) := by
  have mem := List.mem_of_getElem? found
  have mine := guarded.ahead worker mem
  cases move.indexing with
  | quiet _ after kept phase =>
      refine guarded.quiet guards (kept.resumePoint lane) (kept.lastCompleted lane) ?_
        (commitsOn_quiet lane index worker after.worker)
      cases there : after.worker.phase with
      | ingesting plan run tasks =>
          rw [← there]
          have same : worker.phase = after.worker.phase := by
            rw [there]
            exact phase plan run tasks there
          rw [← same]
          exact mine.congr (kept.resumePoint lane)
      | _ => trivial
  | started answers plan options finalizedHead tasks unfinished =>
      refine guarded.quiet guards rfl rfl
        ⟨planned_loopStart finalizedHead unfinished, fun onLane next mem => ?_⟩
        (commitsOn_quiet lane index worker _)
      -- it starts where the checkpoint says
      subst onLane
      have stored : (s.database.analytics.index.checkpoint options.chainId options.scope).map
          (·.nextBlock) = some next := mem
      show next ≤ resumeBlock options _
      rw [resumeBlock_eq_max]
      change next ≤ max _ (((s.database.analytics.index.checkpoint _ _).map _).getD _)
      rw [stored]
      exact le_max_right _ _
  | advanced input plan run tasks next phase step =>
      change worker.phase = .ingesting plan run tasks at phase
      rw [phase] at mine
      obtain ⟨planned, tiles⟩ := step.planned_and_committed mine.1
      have options : next.1.run.options = run.options := step.options_eq
      rw [workerEvents_ingesting phase]
      rcases step.checkpoint truthful with ⟨none, nextBlock, same⟩ |
        ⟨range, one, moved, anchor, others⟩
      · -- nothing has been committed, on this lane or another
        have kept : (WorkerState.index ⟨s.database, s.locks, worker⟩).resumePoint lane
            = next.1.database.resumePoint lane := by
          simp only [Database.resumePoint, Database.nextBlock, Database.checkpoint, same]
        have last : next.1.database.lastCompleted lane
            = s.database.analytics.index.lastCompleted lane := by
          simp only [Database.lastCompleted, Database.checkpoint, same]
          rfl
        refine guarded.quiet guards kept.symm last
          (WorkerPhase.ahead_ingestPhase planned (fun onLane point mem => ?_) plan tasks)
          (by rw [none]; rfl)
        rw [nextBlock]
        rw [options] at onLane
        exact mine.2 onLane point (kept ▸ mem)
      · rw [one] at tiles ⊢
        obtain ⟨begins, nonempty, ends⟩ := tiles
        by_cases onLane : run.options.lane = lane
        · subst onLane
          refine guarded.commit found phase rfl guards begins nonempty moved anchor
            (WorkerPhase.ahead_ingestPhase planned (fun _ point mem => ?_) plan tasks)
          change next.1.database.resumePoint _ = some point at mem
          rw [moved, Option.some.injEq] at mem
          rw [← mem]
          exact ends.le
        · obtain ⟨point, last⟩ := others lane (Ne.symm onLane)
          exact guarded.quiet guards point last
            (WorkerPhase.ahead_ingestPhase planned
              (fun same => absurd (options ▸ same) onLane) plan tasks)
            (by simp [commitsOn, onLane])

/-- **Every step of the system keeps the lane guarded**, and does not take its resume point
back. -/
theorem Guarded.step (guarded : Guarded hashtext lane s trace) {input : WorkerInput}
    (promised : GuardedInput hashtext lane input s) :
    ResumePointLe lane s.database.analytics.index
        (workerStep viem keccak256 isAddress input s).1.database.analytics.index ∧
      Guarded hashtext lane (workerStep viem keccak256 isAddress input s).1
        (trace ++ (workerStep viem keccak256 isAddress input s).2) := by
  have orderly := @Orderly.step viem keccak256 isAddress s guarded.guards.orderly input
  rcases workerStep_spec viem keccak256 isAddress input s with eq |
    ⟨job, session, rfl, unused, eq⟩ | ⟨index, action, worker, next, rfl, found, move, eq⟩ |
    ⟨call, rfl, eq⟩
  · rw [eq, List.append_nil]
    exact ⟨.of_eq rfl, guarded⟩
  · rw [eq] at orderly
    rw [eq, List.append_nil]
    exact ⟨.of_eq rfl, guarded.spawn promised orderly⟩
  · rw [eq] at orderly ⊢
    exact guarded.act found move
      (guarded.guards.moved found move orderly fun lost => promised.1 lost worker found) promised.2
  · obtain ⟨blocks, same⟩ := @databaseStep_index viem keccak256 isAddress call promised s.database
    have kept : s.database.analytics.index.Kept
        (databaseStep viem keccak256 isAddress call s.database).1.analytics.index := by
      rw [same]
      exact ⟨rfl, List.Subset.refl _⟩
    have point := kept.resumePoint lane
    rw [eq] at orderly
    rw [eq, List.append_nil]
    refine ⟨.of_eq point, ⟨orderly, guarded.guards.deployed, guarded.guards.follows,
      guarded.guards.connected⟩, fun worker mem => (guarded.ahead worker mem).congr point, ?_,
      guarded.sorted, ?_⟩
    · show ∀ l ∈ Database.lastCompleted _ lane, ∀ n ∈ Database.resumePoint _ lane, l < n
      rw [kept.lastCompleted, point]
      exact guarded.below
    · intro range mem
      rw [point]
      exact guarded.behind range mem

end Step

theorem ResumePointLe.trans {lane : Lane} {db db' db'' : Database}
    (first : ResumePointLe lane db db') (second : ResumePointLe lane db' db'') :
    ResumePointLe lane db db'' := by
  intro next mem
  obtain ⟨next', mem', le⟩ := first next mem
  obtain ⟨next'', mem'', le'⟩ := second next' mem'
  exact ⟨next'', mem'', le.trans le'⟩

/-- The guarded lane along a schedule, from any moment on. -/
theorem Guarded.run {viem : Viem} {keccak256 : String → String} {isAddress : String → Bool}
    {hashtext : String → ℤ} {lane : Lane} {s : WorkerSystem} {trace : List SystemEvent}
    (guarded : Guarded hashtext lane s trace) {schedule : List WorkerInput}
    (promised : Machine.Along (workerStep viem keccak256 isAddress) (GuardedInput hashtext lane)
      schedule s) :
    let final := Machine.run (workerStep viem keccak256 isAddress) schedule s
    ResumePointLe lane s.database.analytics.index final.1.database.analytics.index ∧
      Guarded hashtext lane final.1 (trace ++ final.2) := by
  refine Machine.run_invariant_along_from
    (fun next trace => ResumePointLe lane s.database.analytics.index
      next.database.analytics.index ∧ Guarded hashtext lane next trace)
    (fun input next trace promised ⟨forward, guarded⟩ => ?_) schedule promised
    ⟨.of_eq rfl, guarded⟩
  obtain ⟨step, guarded⟩ := guarded.step promised
  exact ⟨forward.trans step, guarded⟩

/-- **On a guarded lane every block is indexed once.**  The jobs are the deployed ones, none of
them writes to the lane without a lock, the workers that may write to it keep their connections,
the block provider answers with the block it is asked for, and to begin with the anchor of the
lane is below its resume point.  Then, whatever else happens on the server, and wherever the
workers of the lane die: the chunks that are committed to it follow each other, whoever commits
them; the resume point is behind all of them and never goes back; and the anchor stays below
it. -/
theorem guarded_lane_commits_once (viem : Viem) (keccak256 : String → String)
    (isAddress : String → Bool) (hashtext : String → ℤ) (lane : Lane) (database : WholeDatabase)
    (below : database.analytics.index.AnchorBelow lane) (before after : List WorkerInput)
    (promised : Machine.Along (workerStep viem keccak256 isAddress) (GuardedInput hashtext lane)
      (before ++ after) (.boot database)) :
    let midway := Machine.run (workerStep viem keccak256 isAddress) before (.boot database)
    let final :=
      Machine.run (workerStep viem keccak256 isAddress) (before ++ after) (.boot database)
    ((commitsOn lane final.2).Pairwise fun earlier later => earlier.toBlock < later.fromBlock) ∧
    (∀ range ∈ commitsOn lane final.2,
      ∃ next ∈ final.1.database.analytics.index.resumePoint lane, range.toBlock < next) ∧
    ResumePointLe lane midway.1.database.analytics.index final.1.database.analytics.index ∧
    final.1.database.analytics.index.AnchorBelow lane := by
  intro midway final
  obtain ⟨first, second⟩ := (Machine.along_append before after _).mp promised
  have start : Guarded hashtext lane (.boot database) [] := .boot below
  obtain ⟨-, there⟩ := start.run first
  obtain ⟨forward, guarded⟩ := there.run second
  have split : final = _ := Machine.run_append before after _
  rw [split]
  exact ⟨guarded.sorted, guarded.behind, forward, guarded.below⟩

/-! ### A worker that dies

The first worker dies after a chunk, while the second waits for the lock; the second goes on
where the checkpoint says. -/

/-- A task that goes through. -/
def sampleTask : TaskAnswers where
  wait := 0
  aborted := false
  client := sampleSavingsClient (sampleState 0 0 0)
  start := sampleStart 200
  faults := fun _ => none
  fault := none

/-- From the lock to the first chunk. -/
def firstChunk (worker : ℕ) : List WorkerInput :=
  [ .act worker (.tryLock false),
    .act worker (.perform sampleTask),
    .act worker (.perform sampleTask),
    .act worker (.ingest (.plan samplePlan)),
    .act worker (.ingest (.fetchLogs false 0 ⟨false, fun _ _ => .ok []⟩)),
    .act worker (.ingest (.chunk sampleChunk)) ]

/-- Up to the death of the first worker. -/
def crashSchedule : List WorkerInput :=
  [.spawn (.runSevenDayWorker ⟨0, 50⟩ 0 99) 0, .spawn (.runSevenDayWorker ⟨0, 50⟩ 0 99) 1] ++
    firstChunk 0 ++ [.act 1 (.tryLock false), .act 0 .crash]

/-- Steps that lose no connection. -/
theorem guardedInput_act (hashtext : String → ℤ) (lane : Lane) (index : ℕ)
    {action : WorkerAction} (stays : action ≠ .disconnect) (truthful : action.Truthful)
    (s : WorkerSystem) : GuardedInput hashtext lane (.act index action) s :=
  ⟨fun lost => absurd lost stays, truthful⟩

theorem guardedInput_crashSchedule (hashtext : String → ℤ) (lane : Lane) :
    ∀ input ∈ crashSchedule ++ firstChunk 1, ∀ s, GuardedInput hashtext lane input s := by
  have truthful : sampleChunk.Truthful := by
    rintro number block ⟨⟩
    rfl
  have chunk (worker : ℕ) : ∀ input ∈ firstChunk worker, ∀ s,
      GuardedInput hashtext lane input s := by
    intro input mem
    simp only [firstChunk, List.mem_cons, List.not_mem_nil, or_false] at mem
    rcases mem with rfl | rfl | rfl | rfl | rfl | rfl
    · exact guardedInput_act _ _ _ (by simp) trivial
    · exact guardedInput_act _ _ _ (by simp) trivial
    · exact guardedInput_act _ _ _ (by simp) trivial
    · exact guardedInput_act _ _ _ (by simp) trivial
    · exact guardedInput_act _ _ _ (by simp) trivial
    · exact guardedInput_act _ _ _ (by simp) truthful
  intro input mem
  simp only [crashSchedule, List.mem_append, List.mem_cons, List.not_mem_nil, or_false] at mem
  rcases mem with (((rfl | rfl) | first) | (rfl | rfl)) | second
  · exact fun s => ⟨.runSevenDayWorker _ _ _, by simp [WorkerJob.runSevenDayWorker]⟩
  · exact fun s => ⟨.runSevenDayWorker _ _ _, by simp [WorkerJob.runSevenDayWorker]⟩
  · exact chunk 0 input first
  · exact guardedInput_act _ _ _ (by simp) trivial
  · exact guardedInput_act _ _ _ (by simp) trivial
  · exact chunk 1 input second

theorem guarded_lane_commits_once_crash :
    let midway := Machine.run (workerStep sampleViem id fun _ => false) crashSchedule
      (.boot .empty)
    let final := Machine.run (workerStep sampleViem id fun _ => false)
      (crashSchedule ++ firstChunk 1) (.boot .empty)
    commitsOn sevenDayLane final.2 = [⟨0, 49⟩, ⟨50, 99⟩] ∧
    (∀ range ∈ commitsOn sevenDayLane final.2,
      ∃ next ∈ final.1.database.analytics.index.resumePoint sevenDayLane,
        range.toBlock < next) ∧
    midway.1.database.analytics.index.resumePoint sevenDayLane = some 50 ∧
    ResumePointLe sevenDayLane midway.1.database.analytics.index
      final.1.database.analytics.index ∧
    final.1.database.analytics.index.AnchorBelow sevenDayLane := by
  have promised : Machine.Along (workerStep sampleViem id fun _ => false)
      (GuardedInput (fun _ => 0) sevenDayLane) (crashSchedule ++ firstChunk 1) (.boot .empty) :=
    Machine.along_of_forall_inputs (guardedInput_crashSchedule _ _)
  have result := guarded_lane_commits_once sampleViem id (fun _ => false) (fun _ => 0)
    sevenDayLane .empty (fun _ mem => by cases mem) crashSchedule (firstChunk 1) promised
  exact ⟨by decide +kernel, result.2.1, by decide +kernel, result.2.2.1, result.2.2.2⟩

end UsdpIndexer
