import UsdpIndexer.Analytics.AllTimeYpo
import UsdpIndexer.Analytics.CoverageReuse
import UsdpIndexer.Analytics.HistoryRanges
import UsdpIndexer.Analytics.WholeDatabase
import UsdpIndexer.Rpc.ProviderFailover
import UsdpIndexer.Verification.Service

/-!
# The jobs of the workers

What a process does between its advisory lock and the end of its `finally` block, as a list of
tasks: `runSevenDayWorker` of `indexer/worker.ts`, `runLifetimeActivityRange` of
`analytics/lifetime-activity.ts`, `runSavingsHistoryRange` and
`deriveSavingsHistoryFromCompleteCoverage` of `analytics/savings-history.ts`, and `runIngestion`
of `cli.ts`, which takes no lock.

The jobs differ in the key they lock, in how often they ask for it, in what they do about an
error of `ingestLogs`, and in whether the connection that holds the lock ends with the job.
-/

namespace UsdpIndexer

/-! ## Keys -/

/-- The two key spaces of the server: one number, or two. -/
inductive LockKey
  | id (key : ℤ)
  | pair (key₁ key₂ : ℤ)
deriving DecidableEq, Repr

/-- `WORKER_LOCK_ID` of `indexer/worker.ts`. -/
def WORKER_LOCK_ID : LockKey := .id 999700001

/-- `pg_try_advisory_lock($1, hashtext($2))` with a chain and a scope. -/
def scopeKey (hashtext : String → ℤ) (chainId : ℕ) (scope : String) : LockKey :=
  .pair chainId (hashtext scope)

/-! ## Tasks -/

/-- How `ingestLogs` is called: again and again, or with one provider after the other. -/
inductive IngestPlan
  | recovering (options : IngestLogsOptions)
  | failover (providers : List IngestLogsOptions)

namespace IngestPlan

/-- The call that is due. -/
def options? : IngestPlan → Option IngestLogsOptions
  | recovering options => some options
  | failover providers => providers.head?

/-- The calls that may become due. -/
def allOptions : IngestPlan → List IngestLogsOptions
  | recovering options => [options]
  | failover providers => providers

/-- What is left to try after an error; nothing where the error is rethrown. -/
def retry (error : JsError) : IngestPlan → Option IngestPlan
  | recovering options =>
      if classifyRpcError error = .fatal then none else some (recovering options)
  | failover (_ :: nextProvider :: others) =>
      if isDailyRequestQuotaError error then some (failover (nextProvider :: others)) else none
  | failover _ => none

/-- The loop of `runSevenDayWorker` looks at the abort signal before every call. -/
def checksSignal : IngestPlan → Bool
  | recovering _ => true
  | failover _ => false

theorem mem_allOptions {plan : IngestPlan} {options : IngestLogsOptions}
    (due : plan.options? = some options) : options ∈ plan.allOptions := by
  cases plan with
  | recovering stored =>
      cases due
      exact List.mem_singleton_self _
  | failover providers => exact List.mem_of_mem_head? due

/-- A retry calls nothing new. -/
theorem allOptions_retry {error : JsError} {plan plan' : IngestPlan}
    (retried : plan.retry error = some plan') : plan'.allOptions ⊆ plan.allOptions := by
  unfold retry at retried
  split at retried
  · split at retried
    · cases retried
    · cases retried
      exact List.Subset.refl _
  · split at retried
    · cases retried
      exact List.subset_cons_self _ _
    · cases retried
  · cases retried

end IngestPlan

/-- A task of a job: a call of one function of the other modules. -/
inductive WorkerTask
  | interruptRuns (chainId : ℕ)
  | captureSavingsChainSnapshot (adapter : SavingsChainAdapter) (finalityLag blockNumber : ℤ)
  | checkBoundaries
  | ingestLogs (plan : IngestPlan)
  | reuseSavingsHistoryCoverage (options : ReuseOptions)
  | rebuildFlowAnalytics (options : RebuildFlowAnalyticsOptions)
  | rebuildHolderLedger (adapter : SavingsChainAdapter) (scope : String) (fromBlock toBlock : ℤ)
  | calculateSavingsYieldForRange (options : CalculateSavingsYieldOptions)

/-- A job.  One with a pool of its own asks for the lock inside of its `try`, and ends the pool
in the `finally`; the others have been lent a connection, which they give back. -/
structure WorkerJob where
  lock : Option LockKey
  attempts : ℕ
  ownPool : Bool
  tasks : List WorkerTask

/-- What is read of the environment. -/
structure WorkerEnv where
  FINALITY_LAG : ℤ
  RPC_LOG_CHUNK_SIZE : ℤ

namespace WorkerJob

/-! ## The seven-day backfill -/

/-- `runSevenDayWorker`, once `resolveSevenDayRange` has answered. -/
def runSevenDayWorker (env : WorkerEnv) (fromBlock toBlock : ℤ) : WorkerJob where
  lock := some WORKER_LOCK_ID
  attempts := 20
  ownPool := true
  tasks :=
    [ .interruptRuns HYPEREVM_CHAIN_ID,
      .ingestLogs (.recovering
        { fromBlock := fromBlock
          toBlock := toBlock
          finalityLag := env.FINALITY_LAG
          chunkSize := env.RPC_LOG_CHUNK_SIZE
          scope? := none
          maxRetries := some 5
          retryRateLimitsIndefinitely := some true
          anchorEveryChunks := none
          fetchConcurrency := some 20
          blockFetchBatchSize := none
          adapter := none
          addresses? := none }) ]

/-! ## The lifetime of the two tokens -/

/-- `lifetimeChunkSizes` -/
def lifetimeChunkSizes : ℕ → Option ℤ
  | 1 => some 2000
  | 8453 => some 10000
  | 146 => some 5000
  | 999 => some 5
  | 43114 => some 2048
  | _ => none

/-- A range of `resolveLifetimeActivityRanges`, perhaps capped. -/
structure LifetimeActivityRange where
  adapter : SavingsChainAdapter
  fromBlock : ℤ
  toBlock : ℤ
  begins : lifetimeActivityFromBlock adapter = .ok fromBlock

/-- `runLifetimeActivityRange` -/
def runLifetimeActivityRange (hashtext : String → ℤ) (env : WorkerEnv) (chunkSize : Option ℤ)
    (range : LifetimeActivityRange) : WorkerJob :=
  let adapter := range.adapter
  let scope := lifetimeActivityScope adapter
  { lock := some (scopeKey hashtext adapter.chainId scope)
    attempts := 1
    ownPool := false
    tasks :=
      [ .ingestLogs (.failover
          [ { fromBlock := range.fromBlock
              toBlock := range.toBlock
              finalityLag := env.FINALITY_LAG
              chunkSize := chunkSize.getD ((lifetimeChunkSizes adapter.chainId).getD 2000)
              scope? := some scope
              maxRetries := some 5
              retryRateLimitsIndefinitely := some false
              anchorEveryChunks := some 100
              fetchConcurrency := some 1
              blockFetchBatchSize := some (if adapter.chainId = 8453 then 10 else 1)
              adapter := some adapter
              addresses? := some [adapter.usdp.address, adapter.susdp.address] } ]),
        .rebuildFlowAnalytics
          { scope := scope
            fromBlock := range.fromBlock
            toBlock := range.toBlock
            chainId? := some adapter.chainId
            manifestVersion? :=
              some s!"parallel-assets-{adapter.chainSlug}-lifetime-v1-candidate"
            calculationVersion? := none },
        .rebuildHolderLedger adapter scope range.fromBlock range.toBlock ] }

/-! ## The history of the savings -/

/-- `defaultChunkSizes` -/
def defaultChunkSizes : ℕ → Option ℤ
  | 1 => some 2000
  | 8453 => some 10000
  | 146 => some 5000
  | 999 => some 50
  | 43114 => some 2048
  | _ => none

/-- What `runSavingsHistoryRange` passes on to `ingestLogs` for a provider. -/
def historyOptions (env : WorkerEnv) (range : AlignedSavingsHistoryRange) (chunkSize : ℤ) :
    IngestLogsOptions where
  fromBlock := range.fromBlock
  toBlock := range.toBlock
  finalityLag := env.FINALITY_LAG
  chunkSize := chunkSize
  scope? := some
    (savingsHistoryScope range.adapter range.targetWindowStart range.targetWindowEnd)
  maxRetries := some 5
  retryRateLimitsIndefinitely := some false
  anchorEveryChunks := some 100
  fetchConcurrency := some 1
  blockFetchBatchSize := none
  adapter := some range.adapter
  addresses? := some [range.adapter.susdp.address]

/-- The snapshots at the two boundaries, and the early return. -/
def boundaryTasks (env : WorkerEnv) (range : AlignedSavingsHistoryRange) : List WorkerTask :=
  [ .captureSavingsChainSnapshot range.adapter env.FINALITY_LAG range.fromBlock,
    .captureSavingsChainSnapshot range.adapter env.FINALITY_LAG range.toBlock,
    .checkBoundaries ]

/-- What is derived once the coverage is there. -/
def derivedTasks (range : AlignedSavingsHistoryRange) (scope : String) : List WorkerTask :=
  [ .rebuildFlowAnalytics
      { scope := scope
        fromBlock := range.fromBlock
        toBlock := range.toBlock
        chainId? := some range.adapter.chainId
        manifestVersion? := some range.adapter.manifestVersion
        calculationVersion? := none },
    .calculateSavingsYieldForRange
      ⟨range.adapter, scope, range.fromBlock, range.toBlock, none⟩ ]

/-- `runSavingsHistoryRange`; without `logRpcProviders` there is the configured one. -/
def runSavingsHistoryRange (hashtext : String → ℤ) (env : WorkerEnv) (chunkSize : Option ℤ)
    (logRpcProviders : Option (List RpcProviderCandidate)) (range : AlignedSavingsHistoryRange) :
    WorkerJob :=
  let scope := savingsHistoryScope range.adapter range.targetWindowStart range.targetWindowEnd
  let defaultChunkSize :=
    chunkSize.getD ((defaultChunkSizes range.adapter.chainId).getD 2000)
  let chunkSizes := (logRpcProviders.map fun providers =>
    providers.map (·.chunkSize)).getD [defaultChunkSize]
  { lock := some (scopeKey hashtext range.adapter.chainId scope)
    attempts := 1
    ownPool := false
    tasks := boundaryTasks env range ++
      .ingestLogs (.failover (chunkSizes.map (historyOptions env range))) ::
        derivedTasks range scope }

/-- `deriveSavingsHistoryFromCompleteCoverage` -/
def deriveSavingsHistoryFromCompleteCoverage (hashtext : String → ℤ) (env : WorkerEnv)
    (sourceScope? : Option String) (range : AlignedSavingsHistoryRange) : WorkerJob :=
  let targetScope :=
    savingsHistoryScope range.adapter range.targetWindowStart range.targetWindowEnd
  let sourceScope := sourceScope?.getD
    (if range.adapter.chainId = 999 then targetScope else lifetimeActivityScope range.adapter)
  { lock := some (scopeKey hashtext range.adapter.chainId targetScope)
    attempts := 1
    ownPool := false
    tasks := boundaryTasks env range ++
      .reuseSavingsHistoryCoverage
        ⟨range.adapter, sourceScope, targetScope, range.fromBlock, range.toBlock⟩ ::
        derivedTasks range targetScope }

/-! ## The command line -/

/-- `runIngestion` of `cli.ts`, with the scope that `indexerScope` has read. -/
def runIngestion (env : WorkerEnv) (scope : String) (fromBlock toBlock : ℤ) : WorkerJob where
  lock := none
  attempts := 0
  ownPool := true
  tasks :=
    [ .ingestLogs (.failover
        [ { fromBlock := fromBlock
            toBlock := toBlock
            finalityLag := env.FINALITY_LAG
            chunkSize := env.RPC_LOG_CHUNK_SIZE
            scope? := some scope
            maxRetries := none
            retryRateLimitsIndefinitely := some true
            anchorEveryChunks := none
            fetchConcurrency := none
            blockFetchBatchSize := none
            adapter := none
            addresses? := none } ]) ]

end WorkerJob

/-! ## Lanes and their keys -/

/-- A call of `ingestLogs` that a task may make. -/
def WorkerTask.Calls (options : IngestLogsOptions) : WorkerTask → Prop
  | ingestLogs plan => options ∈ plan.allOptions
  | _ => False

namespace WorkerJob

/-- A call of `ingestLogs` that a job may make. -/
def Calls (job : WorkerJob) (options : IngestLogsOptions) : Prop :=
  ∃ task ∈ job.tasks, task.Calls options

/-- The job may write to the lane. -/
def Ingests (job : WorkerJob) (lane : Lane) : Prop :=
  ∃ options, job.Calls options ∧ options.lane = lane

/-- **The jobs that there are.** -/
inductive Deployed (hashtext : String → ℤ) : WorkerJob → Prop
  | runSevenDayWorker (env : WorkerEnv) (fromBlock toBlock : ℤ) :
      Deployed hashtext (runSevenDayWorker env fromBlock toBlock)
  | runLifetimeActivityRange (env : WorkerEnv) (chunkSize : Option ℤ)
      (range : LifetimeActivityRange) :
      Deployed hashtext (runLifetimeActivityRange hashtext env chunkSize range)
  | runSavingsHistoryRange (env : WorkerEnv) (chunkSize : Option ℤ)
      (logRpcProviders : Option (List RpcProviderCandidate))
      (range : AlignedSavingsHistoryRange) :
      Deployed hashtext (runSavingsHistoryRange hashtext env chunkSize logRpcProviders range)
  | deriveSavingsHistoryFromCompleteCoverage (env : WorkerEnv) (sourceScope? : Option String)
      (range : AlignedSavingsHistoryRange) :
      Deployed hashtext (deriveSavingsHistoryFromCompleteCoverage hashtext env sourceScope? range)
  | runIngestion (env : WorkerEnv) (scope : String) (fromBlock toBlock : ℤ) :
      Deployed hashtext (runIngestion env scope fromBlock toBlock)

end WorkerJob

/-- The lane of the seven-day backfill. -/
def sevenDayLane : Lane := ⟨HYPEREVM_CHAIN_ID, DEFAULT_INDEXER_SCOPE⟩

/-- The key that guards a lane. -/
def laneKey (hashtext : String → ℤ) (lane : Lane) : LockKey :=
  if lane = sevenDayLane then WORKER_LOCK_ID else scopeKey hashtext lane.chainId lane.scope

theorem prefix_append (start rest : String) : start.toList <+: (start ++ rest).toList := by
  rw [String.toList_append]
  exact List.prefix_append _ _

theorem lifetimeActivityScope_begins (adapter : SavingsChainAdapter) :
    "parallel-assets-".toList <+: (lifetimeActivityScope adapter).toList := by
  have split : lifetimeActivityScope adapter
      = "parallel-assets-" ++ (adapter.chainSlug ++ "-lifetime-v1") := by
    simp only [lifetimeActivityScope, ← String.append_assoc]
    rfl
  rw [split]
  exact prefix_append _ _

theorem savingsHistoryScope_begins (adapter : SavingsChainAdapter)
    (targetWindowStart targetWindowEnd : ℤ) :
    "parallel-savings-".toList
      <+: (savingsHistoryScope adapter targetWindowStart targetWindowEnd).toList := by
  have split : savingsHistoryScope adapter targetWindowStart targetWindowEnd
      = "parallel-savings-" ++ (adapter.chainSlug ++ ("-" ++ (toString targetWindowStart ++
          ("-" ++ (toString targetWindowEnd ++ "-v1"))))) := by
    unfold savingsHistoryScope
    simp only [String.append_assoc]
    rfl
  rw [split]
  exact prefix_append _ _

/-- A scope that does not begin like the default one. -/
theorem ne_default_of_prefix {start scope : String} (begins : start.toList <+: scope.toList)
    (differs : ¬ start.toList <+: DEFAULT_INDEXER_SCOPE.toList) :
    scope ≠ DEFAULT_INDEXER_SCOPE := by
  rintro rfl
  exact differs begins

theorem lifetimeActivityScope_ne_default (adapter : SavingsChainAdapter) :
    lifetimeActivityScope adapter ≠ DEFAULT_INDEXER_SCOPE :=
  ne_default_of_prefix (lifetimeActivityScope_begins adapter) (by simp [DEFAULT_INDEXER_SCOPE])

theorem savingsHistoryScope_ne_default (adapter : SavingsChainAdapter)
    (targetWindowStart targetWindowEnd : ℤ) :
    savingsHistoryScope adapter targetWindowStart targetWindowEnd ≠ DEFAULT_INDEXER_SCOPE :=
  ne_default_of_prefix (savingsHistoryScope_begins adapter _ _) (by simp [DEFAULT_INDEXER_SCOPE])

/-- What `runSavingsHistoryRange` calls is for the lane of its scope. -/
theorem lane_of_mem_historyOptions {env : WorkerEnv} {range : AlignedSavingsHistoryRange}
    {chunkSizes : List ℤ} {options : IngestLogsOptions}
    (mem : options ∈ chunkSizes.map (WorkerJob.historyOptions env range)) :
    options.lane = ⟨range.adapter.chainId,
      savingsHistoryScope range.adapter range.targetWindowStart range.targetWindowEnd⟩ := by
  obtain ⟨chunkSize, -, rfl⟩ := List.mem_map.mp mem
  rfl

/-- **A job that writes to a lane under a lock holds the key of the lane.** -/
theorem WorkerJob.Deployed.lock_eq {hashtext : String → ℤ} {job : WorkerJob} {lane : Lane}
    (deployed : job.Deployed hashtext) (ingests : job.Ingests lane) (locks : job.lock ≠ none) :
    job.lock = some (laneKey hashtext lane) := by
  obtain ⟨options, ⟨task, mem, calls⟩, rfl⟩ := ingests
  have scopeLane {chainId : ℕ} {scope : String} (other : scope ≠ DEFAULT_INDEXER_SCOPE) :
      laneKey hashtext ⟨chainId, scope⟩ = scopeKey hashtext chainId scope :=
    if_neg fun same => other (congrArg Lane.scope same)
  cases deployed with
  | runSevenDayWorker env fromBlock toBlock =>
      simp only [WorkerJob.runSevenDayWorker, List.mem_cons, List.not_mem_nil, or_false] at mem
      rcases mem with rfl | rfl
      · exact calls.elim
      · obtain rfl := List.mem_singleton.mp calls
        rfl
  | runLifetimeActivityRange env chunkSize range =>
      simp only [WorkerJob.runLifetimeActivityRange, List.mem_cons, List.not_mem_nil,
        or_false] at mem
      rcases mem with rfl | rfl | rfl
      · obtain rfl := List.mem_singleton.mp calls
        exact congrArg some (scopeLane (lifetimeActivityScope_ne_default range.adapter)).symm
      · exact calls.elim
      · exact calls.elim
  | runSavingsHistoryRange env chunkSize logRpcProviders range =>
      simp only [WorkerJob.runSavingsHistoryRange, boundaryTasks, derivedTasks, List.cons_append,
        List.nil_append, List.mem_cons, List.not_mem_nil, or_false] at mem
      rcases mem with rfl | rfl | rfl | rfl | rfl | rfl
      · exact calls.elim
      · exact calls.elim
      · exact calls.elim
      · rw [lane_of_mem_historyOptions calls]
        exact congrArg some (scopeLane (savingsHistoryScope_ne_default _ _ _)).symm
      · exact calls.elim
      · exact calls.elim
  | deriveSavingsHistoryFromCompleteCoverage env sourceScope? range =>
      simp only [WorkerJob.deriveSavingsHistoryFromCompleteCoverage, boundaryTasks, derivedTasks,
        List.cons_append, List.nil_append, List.mem_cons, List.not_mem_nil, or_false] at mem
      rcases mem with rfl | rfl | rfl | rfl | rfl | rfl <;> exact calls.elim
  | runIngestion env scope fromBlock toBlock => exact absurd rfl locks

end UsdpIndexer
