import UsdpIndexer.Analytics.ChainDashboard
import UsdpIndexer.Indexer.EventBlocks
import UsdpIndexer.Workers.FilledLanes

/-!
# What the workers store belongs to the chains

`UsdpIndexer.Analytics.WholeDatabase` shows that a chunk, a rebuild or a calculation keeps what
is stored on the chains.  The workers do not call these one after the other.  A chunk is written
at the end of a batch that was fetched long before, other workers commit in between, a worker
may have lost its lock or die at any point, and coverage is handed over from one scope to
another without any log being fetched.

None of this matters to the truth of a row (`workers_store_chain`).  What a batch holds is
right about the chain, whenever it is written; and coverage may be handed over to a scope that
watches no more than its source.
-/

namespace UsdpIndexer

open KeyedTable hiding Unique

/-! ## Promises -/

/-- The call fetches the logs of the addresses that its lane watches. -/
def IngestLogsOptions.Watching (watched : Lane → List String) (options : IngestLogsOptions) :
    Prop :=
  ∀ address, Watches options.addresses address ↔ Watches (watched options.lane) address

/-- The scope that is handed coverage watches no more than the one it comes from. -/
def ReuseOptions.WatchesLess (watched : Lane → List String) (options : ReuseOptions) : Prop :=
  ∀ address, Watches (watched ⟨options.adapter.chainId, options.targetScope⟩) address →
    Watches (watched ⟨options.adapter.chainId, options.sourceScope⟩) address

/-- What is promised of a task. -/
def WorkerTask.Promised (watched : Lane → List String) : WorkerTask → Prop
  | ingestLogs plan => ∀ options ∈ plan.allOptions, options.Watching watched
  | reuseSavingsHistoryCoverage options => options.WatchesLess watched
  | rebuildHolderLedger adapter scope _ _ =>
      WatchesRoles (watched ⟨adapter.chainId, scope⟩) adapter.chainId tokenRoles
  | _ => True

/-- What is promised of a job. -/
def WorkerJob.Promised (watched : Lane → List String) (job : WorkerJob) : Prop :=
  ∀ task ∈ job.tasks, task.Promised watched

/-- **What is promised of a step**: jobs ask for the logs of their lanes, the log provider of a
worker answers exactly, and so do the calls of others. -/
def ChainInput (chains : ℕ → ChainLogs) (watched : Lane → List String) (input : WorkerInput)
    (s : WorkerSystem) : Prop :=
  match input with
  | .spawn job _ => job.Promised watched
  | .act index (.ingest input) => ∀ worker ∈ s.workers[index]?, ∀ plan run tasks,
      worker.phase = .ingesting plan run tasks →
        input.Meets run.options.addresses (Exact (chains run.options.chainId) run.options.addresses)
  | .act _ _ => True
  | .call call => call.Promised chains watched

/-! ## The index -/

section Index

variable {viem : Viem} {chains : ℕ → ChainLogs} {watched : Lane → List String} {db : Database}

/-- The index, and that its logs have blocks. -/
structure IndexTruth (viem : Viem) (chains : ℕ → ChainLogs) (watched : Lane → List String)
    (db : Database) : Prop where
  indexes : Indexes viem chains watched db
  blocks : db.LogsReferToBlocks

theorem IndexTruth.withRuns (truth : IndexTruth viem chains watched db)
    (runs : List IndexerRunRow) : IndexTruth viem chains watched { db with runs } :=
  ⟨truth.indexes.of_eq _ rfl rfl rfl rfl, truth.blocks⟩

/-- **Coverage that is handed over is sound**: the logs are those of the source. -/
theorem IndexTruth.handover {db' : Database} {options : ReuseOptions}
    (truth : IndexTruth viem chains watched db) (handed : CoverageHandover options db db')
    (valid : ∀ row ∈ db'.coverage, row.fromBlock ≤ row.toBlock)
    (less : options.WatchesLess watched) : IndexTruth viem chains watched db' := by
  obtain ⟨added, rfl, clipped⟩ := handed.grown
  have store := truth.indexes.store
  refine ⟨⟨{ store with covered := ?_ }, valid⟩, truth.blocks⟩
  intro range mem log has watches lower upper
  rcases List.mem_append.mp mem with old | new
  · exact store.covered range old log has watches lower upper
  · obtain ⟨chain, scope, source, hsource, sourceChain, sourceScope, low, high⟩ :=
      Database.clippedCoverage_inside (clipped range new)
    -- the source covers the log, and watches its address
    have own : (⟨range.chainId, range.scope⟩ : Lane)
        = ⟨options.adapter.chainId, options.targetScope⟩ := by rw [chain, scope]
    rw [own] at watches
    rw [chain] at has ⊢
    have sourceLane : (⟨source.chainId, source.scope⟩ : Lane)
        = ⟨options.adapter.chainId, options.sourceScope⟩ := by rw [sourceChain, sourceScope]
    have found := store.covered source hsource log (by rw [sourceChain]; exact has)
      (by rw [sourceLane]; exact less log.address watches) (low.trans lower) (upper.trans high)
    rw [sourceChain] at found
    exact found

/-- The two ways to state the foreign key. -/
theorem logsReferToBlocks_iff : db.LogsReferToBlocks ↔ db.RawLogsHaveBlocks := by
  refine forall₂_congr fun log mem => ?_
  rw [← Option.isSome_iff_exists, Option.isSome_iff_ne_none, Ne, lookup_eq_none_iff,
    Classical.not_not]

/-- **A step of a run keeps the index true.** -/
theorem Advance.indexTruth {input : RunInput} {s : RunState} {r : RunState × List BlockRange}
    (step : Advance viem input s r) (truth : IndexTruth viem chains watched s.database)
    (watching : s.run.options.Watching watched)
    (sound : ∀ fetch ∈ s.run.fetchedBatch,
      fetch.Sound (Exact (chains s.run.options.chainId) s.run.options.addresses)) :
    IndexTruth viem chains watched r.1.database where
  indexes := ⟨step.storeInvariant truth.indexes.store watching sound,
    step.coverageValid truth.indexes.valid⟩
  blocks := logsReferToBlocks_iff.mpr
    (step.rawLogsHaveBlocks (logsReferToBlocks_iff.mp truth.blocks))

end Index

/-! ## The invariant -/

/-- What a worker still has to do is as promised, and what it has fetched is the chain's. -/
def WorkerPhase.OnChain (chains : ℕ → ChainLogs) (watched : Lane → List String) :
    WorkerPhase → Prop
  | .working tasks _ => ∀ task ∈ tasks, task.Promised watched
  | .ingesting plan run tasks =>
      (∀ task ∈ WorkerTask.ingestLogs plan :: tasks, task.Promised watched) ∧
        run.options.Watching watched ∧
        ∀ fetch ∈ run.fetchedBatch,
          fetch.Sound (Exact (chains run.options.chainId) run.options.addresses)
  | _ => True

section Step

variable {viem : Viem} {chains : ℕ → ChainLogs} {watched : Lane → List String}
  {keccak256 : String → String} {isAddress : String → Bool}

theorem WholeDatabase.OnChain.indexTruth {db : WholeDatabase}
    (onChain : db.OnChain viem chains watched) :
    IndexTruth viem chains watched db.analytics.index :=
  ⟨onChain.yields.index, onChain.blocks⟩

/-- The tables with another index. -/
theorem WorkerState.onChain_withIndex {s : WorkerState} {index : Database}
    (onChain : s.database.OnChain viem chains watched)
    (truth : IndexTruth viem chains watched index) :
    (s.withIndex index).database.OnChain viem chains watched :=
  ⟨⟨truth.indexes, onChain.yields.rows⟩, truth.blocks, onChain.flows, onChain.holders⟩

/-- The call of a task is promised if the task is. -/
theorem WorkerTask.promised_call {answers : TaskAnswers} {task : WorkerTask} {call : DatabaseCall}
    (asks : task.call answers = some call) (promised : task.Promised watched) :
    call.Promised chains watched := by
  cases task with
  | captureSavingsChainSnapshot adapter finalityLag blockNumber =>
      cases asks
      trivial
  | rebuildFlowAnalytics options =>
      cases asks
      trivial
  | rebuildHolderLedger adapter scope fromBlock toBlock =>
      cases asks
      exact fun _ => promised
  | calculateSavingsYieldForRange options =>
      cases asks
      trivial
  | _ => cases asks

/-- The phase after an error of `ingestLogs`. -/
theorem WorkerPhase.onChain_ingestFailed {error : JsError} {plan : IngestPlan}
    {tasks : List WorkerTask}
    (promised : ∀ task ∈ WorkerTask.ingestLogs plan :: tasks, task.Promised watched) :
    (WorkerState.ingestFailed error plan tasks).OnChain chains watched := by
  unfold WorkerState.ingestFailed
  cases retried : plan.retry error with
  | none => trivial
  | some plan' =>
      intro task mem
      rcases List.mem_cons.mp mem with rfl | later
      · intro options due
        exact promised (.ingestLogs plan) List.mem_cons_self options
          (IngestPlan.allOptions_retry retried due)
      · exact promised task (List.mem_cons_of_mem _ later)

/-- **The next task keeps what is stored on the chains.** -/
theorem Performed.onChain {answers : TaskAnswers} {tasks : List WorkerTask} {task : WorkerTask}
    {s next : WorkerState}
    (performed : Performed viem keccak256 isAddress answers tasks s task next)
    (watches : WatchesVaults watched) (onChain : s.database.OnChain viem chains watched)
    (promised : ∀ other ∈ task :: tasks, other.Promised watched) :
    next.database.OnChain viem chains watched ∧ next.worker.phase.OnChain chains watched := by
  have mine : task.Promised watched := promised task List.mem_cons_self
  have others (other : WorkerTask) (mem : other ∈ tasks) : other.Promised watched :=
    promised other (List.mem_cons_of_mem _ mem)
  have handed (options : ReuseOptions) (less : options.WatchesLess watched) :
      (s.withIndex (s.index.reuseSavingsHistoryCoverage options).2).database.OnChain viem chains
        watched := by
    obtain ⟨handover, keeps, -⟩ := reuseSavingsHistoryCoverage_spec options s.index
    exact WorkerState.onChain_withIndex onChain
      (onChain.indexTruth.handover handover (keeps onChain.yields.index.valid) less)
  cases performed with
  | left => exact ⟨onChain, trivial⟩
  | interrupted chainId invalid =>
      exact ⟨WorkerState.onChain_withIndex onChain (onChain.indexTruth.withRuns _), others⟩
  | checked => exact ⟨onChain, others⟩
  | failed plan error => exact ⟨onChain, WorkerPhase.onChain_ingestFailed promised⟩
  | noop plan options due => exact ⟨onChain, others⟩
  | started plan options finalizedHead due =>
      refine ⟨WorkerState.onChain_withIndex onChain (onChain.indexTruth.withRuns _),
        promised, mine options (IngestPlan.mem_allOptions due), ?_⟩
      exact fun fetch mem => absurd mem List.not_mem_nil
  | reused options invalid => exact ⟨handed options mine, others⟩
  | notReused options => exact ⟨handed options mine, trivial⟩
  | called task call phase asks goesOn =>
      refine ⟨onChain.step watches (WorkerTask.promised_call asks mine), ?_⟩
      rcases goesOn with rfl | ⟨invalid, rfl⟩
      · trivial
      · exact others

/-- **One step of a worker keeps what is stored on the chains.** -/
theorem Moves.onChain {action : WorkerAction} {s : WorkerState} {next : WorkerMove}
    (move : Moves viem keccak256 isAddress s action next) (watches : WatchesVaults watched)
    (onChain : s.database.OnChain viem chains watched) (job : s.worker.job.Promised watched)
    (mine : s.worker.phase.OnChain chains watched)
    (exact_ : ∀ input plan run tasks, action = .ingest input →
      s.worker.phase = .ingesting plan run tasks → input.Meets run.options.addresses
        (Exact (chains run.options.chainId) run.options.addresses)) :
    next.1.database.OnChain viem chains watched ∧ next.1.worker.phase.OnChain chains watched := by
  cases move with
  | idle action => exact ⟨onChain, mine⟩
  | asked failed key refusals phase lock =>
      have there := phase_tryLockStep failed key refusals s
      rw [tryLockStep_database failed key refusals s]
      refine ⟨onChain, ?_⟩
      generalize (s.tryLockStep failed key refusals).worker.phase = phase' at there
      simp only [List.mem_cons, List.not_mem_nil, or_false] at there
      rcases there with rfl | rfl | rfl | rfl | rfl
      · trivial
      · exact job
      · trivial
      · trivial
      · trivial
  | left answers invalid phase => exact ⟨onChain, trivial⟩
  | performed answers task tasks invalid next phase performed =>
      rw [phase] at mine
      exact performed.onChain watches onChain mine
  | ingested input plan run tasks phase =>
      rw [phase] at mine
      obtain ⟨promised, watching, sound⟩ := mine
      have step := advance_spec viem input ⟨s.index, run⟩
      have truth := step.indexTruth onChain.indexTruth watching sound
      have fetched := step.sound (exact_ input plan run tasks rfl phase) sound
      have options := step.options_eq
      refine ⟨WorkerState.onChain_withIndex onChain truth, ?_⟩
      show (WorkerState.ingestPhase plan _ tasks).OnChain chains watched
      unfold WorkerState.ingestPhase
      split
      · rw [WorkerPhase.OnChain, options]
        exact ⟨promised, watching, fetched⟩
      · split
        · trivial
        · exact fun task mem => promised task (List.mem_cons_of_mem _ mem)
      · exact WorkerPhase.onChain_ingestFailed promised
  | unlocked failed phase =>
      have there := phase_unlockStep failed s
      rw [unlockStep_database failed s]
      refine ⟨onChain, ?_⟩
      generalize (s.unlockStep failed).worker.phase = phase' at there
      simp only [List.mem_cons, List.not_mem_nil, or_false] at there
      rcases there with rfl | rfl
      · trivial
      · trivial
  | disconnected live => exact ⟨onChain, mine⟩
  | crashed live => exact ⟨onChain, trivial⟩

/-! ## The system -/

/-- The tables belong to the chains, and so does what the workers are about to write. -/
structure WorkerSystem.OnChain (viem : Viem) (chains : ℕ → ChainLogs)
    (watched : Lane → List String) (s : WorkerSystem) : Prop where
  database : s.database.OnChain viem chains watched
  jobs : ∀ worker ∈ s.workers, worker.job.Promised watched
  phases : ∀ worker ∈ s.workers, worker.phase.OnChain chains watched

theorem WorkerSystem.OnChain.boot : (WorkerSystem.boot .empty).OnChain viem chains watched where
  database := .empty
  jobs := fun _ mem => absurd mem List.not_mem_nil
  phases := fun _ mem => absurd mem List.not_mem_nil

theorem WorkerSystem.OnChain.step {s : WorkerSystem} (onChain : s.OnChain viem chains watched)
    (watches : WatchesVaults watched) {input : WorkerInput}
    (promised : ChainInput chains watched input s) :
    (workerStep viem keccak256 isAddress input s).1.OnChain viem chains watched := by
  rcases workerStep_spec viem keccak256 isAddress input s with eq |
    ⟨job, session, rfl, unused, eq⟩ | ⟨index, action, worker, next, rfl, found, move, eq⟩ |
    ⟨call, rfl, eq⟩
  · rw [eq]
    exact onChain
  · rw [eq]
    refine ⟨onChain.database, ?_, ?_⟩ <;> intro worker mem <;>
      rcases List.mem_append.mp mem with old | new
    · exact onChain.jobs worker old
    · obtain rfl := List.mem_singleton.mp new
      exact promised
    · exact onChain.phases worker old
    · obtain rfl := List.mem_singleton.mp new
      unfold Worker.start
      cases job.lock with
      | none => exact promised
      | some key => trivial
  · rw [eq]
    have mem := List.mem_of_getElem? found
    have step := move.onChain watches onChain.database (onChain.jobs worker mem)
      (onChain.phases worker mem) fun input plan run tasks same phase => by
        subst same
        exact promised worker found plan run tasks phase
    refine ⟨step.1, fun other hother => ?_, fun other hother => ?_⟩
    · rcases List.mem_or_eq_of_mem_set hother with old | rfl
      · exact onChain.jobs other old
      · rw [move.job_eq]
        exact onChain.jobs worker mem
    · rcases List.mem_or_eq_of_mem_set hother with old | rfl
      · exact onChain.phases other old
      · exact step.2
  · rw [eq]
    exact ⟨onChain.database.step watches promised, onChain.jobs, onChain.phases⟩

end Step

/-! ## What the jobs watch -/

/-- Scopes that are made up for a chain, or for a window of it. -/
def Reserved (scope : String) : Prop :=
  "parallel-assets-".toList <+: scope.toList ∨ "parallel-savings-".toList <+: scope.toList

instance (scope : String) : Decidable (Reserved scope) :=
  inferInstanceAs (Decidable (_ ∨ _))

theorem not_reserved_default : ¬ Reserved DEFAULT_INDEXER_SCOPE := by decide

/-- The addresses that the jobs for a lane ask the logs of. -/
def deployedAddresses (lane : Lane) : List String :=
  match savingsChainAdapters.find? (·.chainId = lane.chainId) with
  | none => []
  | some adapter =>
      if lane.scope = lifetimeActivityScope adapter then
        [adapter.usdp.address, adapter.susdp.address]
      else if lane.chainId = HYPEREVM_CHAIN_ID ∧ ¬ Reserved lane.scope then hyperevmAddresses
      else [adapter.susdp.address]

/-- The adapters are those of the registry, and a scope that is given by hand is none of those
that are made up. -/
def WorkerTask.Known : WorkerTask → Prop
  | ingestLogs plan => ∀ options ∈ plan.allOptions,
      (∀ adapter ∈ options.adapter, adapter ∈ savingsChainAdapters) ∧
        (options.adapter = none → ¬ Reserved options.scope)
  | reuseSavingsHistoryCoverage options => options.adapter ∈ savingsChainAdapters
  | rebuildHolderLedger adapter _ _ _ => adapter ∈ savingsChainAdapters
  | _ => True

/-- It is so of each task of a job. -/
def WorkerJob.Known (job : WorkerJob) : Prop := ∀ task ∈ job.tasks, task.Known

/-- The history of a window is no lifetime. -/
theorem savingsHistoryScope_ne_lifetime (adapter other : SavingsChainAdapter)
    (targetWindowStart targetWindowEnd : ℤ) :
    savingsHistoryScope adapter targetWindowStart targetWindowEnd
      ≠ lifetimeActivityScope other := by
  intro same
  have history := savingsHistoryScope_begins adapter targetWindowStart targetWindowEnd
  rw [same] at history
  have lifetime := lifetimeActivityScope_begins other
  -- the two prefixes differ at the tenth letter
  have shorter := List.prefix_of_prefix_length_le lifetime history (by decide)
  exact absurd shorter (by decide)

section Deployed

theorem find?_adapter {adapter : SavingsChainAdapter} (known : adapter ∈ savingsChainAdapters) :
    savingsChainAdapters.find? (·.chainId = adapter.chainId) = some adapter := by
  have all : ∀ adapter ∈ savingsChainAdapters,
      savingsChainAdapters.find? (·.chainId = adapter.chainId) = some adapter := by
    decide +kernel
  exact all adapter known

theorem deployedAddresses_lifetime {adapter : SavingsChainAdapter}
    (known : adapter ∈ savingsChainAdapters) :
    deployedAddresses ⟨adapter.chainId, lifetimeActivityScope adapter⟩
      = [adapter.usdp.address, adapter.susdp.address] := by
  simp only [deployedAddresses, find?_adapter known, if_true]

theorem deployedAddresses_history {adapter : SavingsChainAdapter}
    (known : adapter ∈ savingsChainAdapters) (targetWindowStart targetWindowEnd : ℤ) :
    deployedAddresses
        ⟨adapter.chainId, savingsHistoryScope adapter targetWindowStart targetWindowEnd⟩
      = [adapter.susdp.address] := by
  have reserved : Reserved (savingsHistoryScope adapter targetWindowStart targetWindowEnd) :=
    .inr (savingsHistoryScope_begins _ _ _)
  simp only [deployedAddresses, find?_adapter known, savingsHistoryScope_ne_lifetime, reserved,
    not_true_eq_false, and_false, if_false]

theorem deployedAddresses_default {scope : String} (free : ¬ Reserved scope) :
    deployedAddresses ⟨HYPEREVM_CHAIN_ID, scope⟩ = hyperevmAddresses := by
  obtain ⟨adapter, found⟩ : ∃ adapter,
      savingsChainAdapters.find? (·.chainId = HYPEREVM_CHAIN_ID) = some adapter :=
    Option.isSome_iff_exists.mp (by decide +kernel)
  have differs : scope ≠ lifetimeActivityScope adapter := by
    rintro rfl
    exact free (.inl (lifetimeActivityScope_begins adapter))
  simp only [deployedAddresses, found, differs, if_false, free, not_false_eq_true, and_self,
    if_true]

/-- Every lane of a chain watches its vault. -/
theorem watches_susdp {adapter : SavingsChainAdapter} (known : adapter ∈ savingsChainAdapters)
    (scope : String) :
    Watches (deployedAddresses ⟨adapter.chainId, scope⟩) adapter.susdp.address := by
  have hyperevm : ∀ adapter ∈ savingsChainAdapters, adapter.chainId = HYPEREVM_CHAIN_ID →
      Watches hyperevmAddresses adapter.susdp.address := by decide +kernel
  simp only [deployedAddresses, find?_adapter known]
  split
  · exact ⟨_, List.mem_cons_of_mem _ List.mem_cons_self, rfl⟩
  · split
    · rename_i here
      exact hyperevm adapter known here.1
    · exact ⟨_, List.mem_cons_self, rfl⟩

/-- The vault of a chain is that of its adapter. -/
theorem watchesVaults_deployedAddresses : WatchesVaults deployedAddresses := by
  intro lane address role wanted found
  obtain ⟨decoder, mem, rfl⟩ := mem_decoders_of_contractRole found
  rcases mem_decoders mem with ⟨adapter, known, entry | entry⟩ | entry
  · obtain ⟨-, rfl⟩ := Prod.mk.inj entry
    simp [vaultRoles] at wanted
  · obtain ⟨key, -⟩ := Prod.mk.inj entry
    obtain ⟨chain, same⟩ := Prod.mk.inj key
    obtain ⟨stored, listed, lower⟩ := watches_susdp known lane.scope
    rw [← chain] at listed
    exact ⟨stored, listed, lower.trans same.symm⟩
  · obtain ⟨-, rfl⟩ := Prod.mk.inj entry
    simp [vaultRoles] at wanted

/-- The lifetime of a chain watches its two tokens. -/
theorem watchesRoles_lifetime {adapter : SavingsChainAdapter}
    (known : adapter ∈ savingsChainAdapters) :
    WatchesRoles (deployedAddresses ⟨adapter.chainId, lifetimeActivityScope adapter⟩)
      adapter.chainId tokenRoles := by
  rw [deployedAddresses_lifetime known]
  refine watchesRoles_of_decoders fun entry mem chain token => ?_
  rcases mem_decoders mem with ⟨other, otherKnown, rfl | rfl⟩ | rfl
  · obtain rfl := Option.some.inj ((find?_adapter otherKnown).symm.trans
      ((congrArg (fun id => savingsChainAdapters.find? (·.chainId = id)) chain).trans
        (find?_adapter known)))
    exact ⟨_, List.mem_cons_self, rfl⟩
  · obtain rfl := Option.some.inj ((find?_adapter otherKnown).symm.trans
      ((congrArg (fun id => savingsChainAdapters.find? (·.chainId = id)) chain).trans
        (find?_adapter known)))
    exact ⟨_, List.mem_cons_of_mem _ List.mem_cons_self, rfl⟩
  · simp [tokenRoles] at token

/-- **What the jobs ask for is what their lanes watch.** -/
theorem WorkerJob.Deployed.promised {hashtext : String → ℤ} {job : WorkerJob}
    (deployed : job.Deployed hashtext) (known : job.Known) : job.Promised deployedAddresses := by
  have watching {options : IngestLogsOptions}
      (same : options.addresses = deployedAddresses options.lane) :
      options.Watching deployedAddresses := fun address => by rw [same]
  cases deployed with
  | runSevenDayWorker env fromBlock toBlock =>
      intro task mem
      simp only [WorkerJob.runSevenDayWorker, List.mem_cons, List.not_mem_nil, or_false] at mem
      rcases mem with rfl | rfl
      · trivial
      · intro options due
        obtain rfl := List.mem_singleton.mp due
        exact watching (deployedAddresses_default not_reserved_default).symm
  | runLifetimeActivityRange env chunkSize range =>
      have mine : range.adapter ∈ savingsChainAdapters :=
        (known _ List.mem_cons_self _ (List.mem_singleton_self _)).1 _ rfl
      intro task mem
      simp only [WorkerJob.runLifetimeActivityRange, List.mem_cons, List.not_mem_nil, or_false]
        at mem
      rcases mem with rfl | rfl | rfl
      · intro options due
        obtain rfl := List.mem_singleton.mp due
        exact watching (deployedAddresses_lifetime mine).symm
      · trivial
      · exact watchesRoles_lifetime mine
  | runSavingsHistoryRange env chunkSize logRpcProviders range =>
      intro task mem
      rcases List.mem_append.mp mem with boundary | later
      · simp only [boundaryTasks, List.mem_cons, List.not_mem_nil, or_false] at boundary
        rcases boundary with rfl | rfl | rfl <;> trivial
      · rcases List.mem_cons.mp later with rfl | derived
        · intro options due
          have mine := (known _ mem options due).1
          obtain ⟨chunkSize, -, rfl⟩ := List.mem_map.mp due
          exact watching (deployedAddresses_history (mine range.adapter rfl) _ _).symm
        · simp only [derivedTasks, List.mem_cons, List.not_mem_nil, or_false] at derived
          rcases derived with rfl | rfl <;> trivial
  | deriveSavingsHistoryFromCompleteCoverage env sourceScope? range =>
      intro task mem
      rcases List.mem_append.mp mem with boundary | later
      · simp only [boundaryTasks, List.mem_cons, List.not_mem_nil, or_false] at boundary
        rcases boundary with rfl | rfl | rfl <;> trivial
      · rcases List.mem_cons.mp later with rfl | derived
        · have mine : range.adapter ∈ savingsChainAdapters := known _ mem
          rintro address ⟨stored, listed, same⟩
          rw [deployedAddresses_history mine] at listed
          obtain rfl := List.mem_singleton.mp listed
          obtain ⟨other, listed', same'⟩ := watches_susdp mine _
          exact ⟨other, listed', same'.trans same⟩
        · simp only [derivedTasks, List.mem_cons, List.not_mem_nil, or_false] at derived
          rcases derived with rfl | rfl <;> trivial
  | runIngestion env scope fromBlock toBlock =>
      intro task mem
      obtain rfl := List.mem_singleton.mp mem
      intro options due
      have free := (known _ mem options due).2
      obtain rfl := List.mem_singleton.mp due
      exact watching (deployedAddresses_default (free rfl)).symm

end Deployed

/-! ## Every run -/

/-- What is promised of a step of the deployed system: the jobs are those there are, for the
chains of the registry, and the log providers answer exactly. -/
def DeployedInput (hashtext : String → ℤ) (chains : ℕ → ChainLogs) (input : WorkerInput)
    (s : WorkerSystem) : Prop :=
  match input with
  | .spawn job _ => job.Deployed hashtext ∧ job.Known
  | input => ChainInput chains deployedAddresses input s

theorem DeployedInput.chainInput {hashtext : String → ℤ} {chains : ℕ → ChainLogs}
    {input : WorkerInput} {s : WorkerSystem} (promised : DeployedInput hashtext chains input s) :
    ChainInput chains deployedAddresses input s := by
  cases input with
  | spawn job session => exact promised.1.promised promised.2
  | act index action => exact promised
  | call call => exact promised

/-- **What is stored belongs to the chains**, whatever workers there are and however their steps
interleave: with and without locks, after crashes, errors and retries, and with coverage that
has been handed over.  The jobs are the deployed ones for adapters of the registry, no scope that
is given by hand begins like one that is made up, and the log providers and the calls of others
answer with exactly what the chain has. -/
theorem workers_store_chain (viem : Viem) (keccak256 : String → String)
    (isAddress : String → Bool) (hashtext : String → ℤ) (chains : ℕ → ChainLogs)
    (schedule : List WorkerInput)
    (promised : Machine.Along (workerStep viem keccak256 isAddress)
      (DeployedInput hashtext chains) schedule (.boot .empty)) :
    (Machine.run (workerStep viem keccak256 isAddress) schedule
      (.boot .empty)).1.database.OnChain viem chains deployedAddresses := by
  have onChain := Machine.run_invariant_along
    (fun (s : WorkerSystem) _ => s.OnChain viem chains deployedAddresses)
    (fun input s _ promised onChain => onChain.step watchesVaults_deployedAddresses
      promised.chainInput) schedule promised .boot
  exact onChain.database

/-! ### The lock is lost, and then the worker -/

/-- The mint is fetched, the connection with the lock is lost, the chunk is written all the
same, and the process dies when it has rebuilt the holders. -/
def mintSchedule : List WorkerInput :=
  [ .spawn (.runLifetimeActivityRange (fun _ => 0) ⟨0, 50⟩ none fourBlocks) 0,
    .act 0 (.tryLock false),
    .act 0 (.perform { sampleTask with start := sampleStart 30000000 }),
    .act 0 (.ingest (.plan samplePlan)),
    .act 0 (.ingest (.fetchLogs false 0 ⟨false, getSingleLog mintLog⟩)),
    .act 0 .disconnect,
    .act 0 (.ingest (.chunk sampleChunk)),
    .act 0 (.ingest (.plan samplePlan)),
    .act 0 (.perform sampleTask),
    .act 0 (.perform sampleTask),
    .act 0 .crash ]

theorem known_fourBlocks :
    (WorkerJob.runLifetimeActivityRange (fun _ => 0) ⟨0, 50⟩ none fourBlocks).Known := by
  intro task mem
  simp only [WorkerJob.runLifetimeActivityRange, List.mem_cons, List.not_mem_nil, or_false] at mem
  rcases mem with rfl | rfl | rfl
  · intro options due
    obtain rfl := List.mem_singleton.mp due
    refine ⟨fun adapter same => ?_, fun none => by cases none⟩
    obtain rfl := Option.some.inj same
    exact List.mem_cons_self
  · trivial
  · exact List.mem_cons_self

theorem workers_store_chain_mint :
    let db := (Machine.run (workerStep mintViem id (Text.isHex 40)) mintSchedule
      (.boot .empty)).1.database
    (db.holders.balances.map fun row => (row.holderAddress, row.balance)) = [(alice, 100)] ∧
      db.OnChain mintViem (fun _ => .single mintLog) deployedAddresses := by
  have hashes : mintLog.blockHash ≠ "" ∧ mintLog.transactionHash ≠ "" := by decide +kernel
  refine ⟨by decide +kernel, workers_store_chain mintViem id (Text.isHex 40) (fun _ => 0)
    (fun _ => .single mintLog) mintSchedule ?_⟩
  exact ⟨⟨.runLifetimeActivityRange _ _ _, known_fourBlocks⟩, trivial, trivial,
    fun _ _ _ _ _ _ => trivial,
    fun _ _ _ _ _ _ => exact_getSingleLog hashes _, trivial, fun _ _ _ _ _ _ => trivial,
    fun _ _ _ _ _ _ => trivial, trivial, trivial, trivial, trivial⟩

end UsdpIndexer
