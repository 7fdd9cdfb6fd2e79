import UsdpIndexer.Indexer.Resume
import UsdpIndexer.Workers.GuardedLanes

/-!
# Filled lanes

Where all jobs that write to a lane begin at one block, there is no gap below its resume point,
whether the workers lock or not, and however they overtake each other.  What is derived after
the ingestion then never finds its coverage incomplete: between the end of `ingestLogs` and the
rebuilds, other workers may write, fail and die, but nothing takes coverage away.

A task that needs coverage states it as a `demand`, and `Ready` says that every demand of a list
of tasks is met, or is met by the time the task is due, because a task before it sees to that.
All jobs are ready to begin with.
-/

namespace UsdpIndexer

open IntegerCover

/-! ## Demands -/

/-- A range of a lane. -/
structure Demand where
  lane : Lane
  range : BlockRange
deriving DecidableEq, Repr

/-- The coverage that a task asks for. -/
def WorkerTask.demand : WorkerTask → Option Demand
  | rebuildFlowAnalytics options =>
      some ⟨⟨options.chainId, options.scope⟩, ⟨options.fromBlock, options.toBlock⟩⟩
  | rebuildHolderLedger adapter scope fromBlock toBlock =>
      some ⟨⟨adapter.chainId, scope⟩, ⟨fromBlock, toBlock⟩⟩
  | calculateSavingsYieldForRange options =>
      some ⟨⟨options.adapter.chainId, options.scope⟩, ⟨options.fromBlock, options.toBlock⟩⟩
  | _ => none

/-- What a worker asks for in its next step. -/
def WorkerPhase.due : WorkerPhase → Option Demand
  | .working (task :: _) _ => task.demand
  | _ => none

/-- The demand is met: its range is one, and all of it is covered. -/
structure Demand.Met (demand : Demand) (db : Database) : Prop where
  ordered : demand.range.fromBlock ≤ demand.range.toBlock
  covered : ∀ block, demand.range.fromBlock ≤ block → block ≤ demand.range.toBlock →
    db.CoveredFor demand.lane block

/-- Once the task has been done, the demand is met. -/
def WorkerTask.Supplies (demand : Demand) : WorkerTask → Prop
  | ingestLogs plan => ∀ options ∈ plan.allOptions,
      demand = ⟨options.lane, ⟨options.fromBlock, options.toBlock⟩⟩
  | reuseSavingsHistoryCoverage options => demand =
      ⟨⟨options.adapter.chainId, options.targetScope⟩, ⟨options.fromBlock, options.toBlock⟩⟩
  | _ => False

/-- The demands of the tasks on the lane are met when they are due, if those are that have been
`supplied` so far. -/
def Ready (lane : Lane) : (Demand → Prop) → List WorkerTask → Prop
  | _, [] => True
  | supplied, task :: tasks =>
      (∀ demand ∈ task.demand, demand.lane = lane → supplied demand) ∧
        Ready lane (fun demand => supplied demand ∨ task.Supplies demand) tasks

theorem Ready.mono {lane : Lane} {tasks : List WorkerTask} :
    ∀ {supplied supplied' : Demand → Prop}, Ready lane supplied tasks →
      (∀ demand, demand.lane = lane → supplied demand → supplied' demand) →
        Ready lane supplied' tasks := by
  induction tasks with
  | nil => intro _ _ _ _; exact trivial
  | cons task tasks ih =>
      intro supplied supplied' ready more
      refine ⟨fun demand mem onLane => more demand onLane (ready.1 demand mem onLane),
        ih ready.2 fun demand onLane => ?_⟩
      exact Or.imp_left (more demand onLane)

theorem noDemand {lane : Lane} {supplied : Demand → Prop} {task : WorkerTask}
    (quiet : task.demand = none) :
    ∀ demand ∈ task.demand, demand.lane = lane → supplied demand := by
  intro demand mem
  rw [quiet] at mem
  cases mem

/-- A retry supplies what the first try would have. -/
theorem Ready.retry {lane : Lane} {supplied : Demand → Prop} {plan plan' : IngestPlan}
    {tasks : List WorkerTask} (ready : Ready lane supplied (.ingestLogs plan :: tasks))
    (sub : plan'.allOptions ⊆ plan.allOptions) :
    Ready lane supplied (.ingestLogs plan' :: tasks) := by
  refine ⟨noDemand rfl, ready.2.mono fun demand _ => Or.imp_right ?_⟩
  intro supplies options mem
  exact supplies options (sub mem)

/-- **Every job is ready**: what it derives it derives behind the task that covers it. -/
theorem WorkerJob.Deployed.ready {hashtext : String → ℤ} {job : WorkerJob}
    (deployed : job.Deployed hashtext) (lane : Lane) :
    Ready lane (fun _ => False) job.tasks := by
  cases deployed with
  | runSevenDayWorker env fromBlock toBlock =>
      exact ⟨noDemand rfl, noDemand rfl, trivial⟩
  | runLifetimeActivityRange env chunkSize range =>
      refine ⟨noDemand rfl, ?_, ?_, trivial⟩
      · rintro demand ⟨⟩ -
        refine .inr fun options mem => ?_
        obtain rfl := List.mem_singleton.mp mem
        rfl
      · rintro demand ⟨⟩ -
        refine .inl (.inr fun options mem => ?_)
        obtain rfl := List.mem_singleton.mp mem
        rfl
  | runSavingsHistoryRange env chunkSize logRpcProviders range =>
      have asksFor {chunkSizes : List ℤ} {options : IngestLogsOptions}
          (mem : options ∈ chunkSizes.map (WorkerJob.historyOptions env range)) :
          (⟨⟨range.adapter.chainId, savingsHistoryScope range.adapter range.targetWindowStart
            range.targetWindowEnd⟩, ⟨range.fromBlock, range.toBlock⟩⟩ : Demand)
            = ⟨options.lane, ⟨options.fromBlock, options.toBlock⟩⟩ := by
        obtain ⟨chunkSize, -, rfl⟩ := List.mem_map.mp mem
        rfl
      refine ⟨noDemand rfl, noDemand rfl,
        noDemand rfl, noDemand rfl, ?_, ?_, trivial⟩
      · rintro demand ⟨⟩ -
        exact .inr fun options mem => asksFor mem
      · rintro demand ⟨⟩ -
        exact .inl (.inr fun options mem => asksFor mem)
  | deriveSavingsHistoryFromCompleteCoverage env sourceScope? range =>
      refine ⟨noDemand rfl, noDemand rfl,
        noDemand rfl, noDemand rfl, ?_, ?_, trivial⟩
      · rintro demand ⟨⟩ -
        exact .inr rfl
      · rintro demand ⟨⟩ -
        exact .inl (.inr rfl)
  | runIngestion env scope fromBlock toBlock => exact ⟨noDemand rfl, trivial⟩

/-! ## What a run adds -/

section Run

variable {viem : Viem} {input : RunInput} {s : RunState} {r : RunState × List BlockRange}

/-- **The coverage a step adds** is that of the range it commits. -/
theorem Advance.coveredFor_iff (step : Advance viem input s r) (lane : Lane) (block : ℤ) :
    r.1.database.CoveredFor lane block
      ↔ s.database.CoveredFor lane block ∨
        (s.run.options.lane = lane ∧ Covered r.2 block) := by
  cases step with
  | fetched dropped index answer =>
      simp only [not_covered_nil, and_false, or_false]
      cases dropped <;> exact Iff.rfl
  | committed answers head rest fetched blocks anchor counters counters' runs outcome _ _ _ _ _
      commit =>
      obtain ⟨logs, -, -, -, written⟩ := persistChunk_committed commit
      show Covered ((persistChunk _ _ _ _ _).database.coverageRanges _ _) block ↔ _
      rw [written, covered_writeChunk]
      refine or_congr Iff.rfl (and_congr ?_ ?_)
      · exact (@Lane.ext_iff s.run.options.lane lane).symm
      · simp only [covered_cons, not_covered_nil, or_false]
        exact Iff.rfl
  | stopped =>
      simp only [not_covered_nil, and_false, or_false]
      exact Iff.rfl
  | _ => simp

theorem Advance.coverageValid (step : Advance viem input s r)
    (valid : s.database.CoverageValid) : r.1.database.CoverageValid := by
  have start : LoopEffect s.database s.run.options.lane s [] :=
    ⟨rfl, id, fun block => by simp, fun _ => rfl⟩
  exact (step.loopEffect start).valid valid

/-- The resume point after a step. -/
theorem Advance.resumePoint_eq (step : Advance viem input s r) (lane : Lane) :
    r.1.database.resumePoint lane = s.database.resumePoint lane ∨
      s.run.options.lane = lane ∧ ∃ range, r.2 = [range] ∧
        r.1.database.resumePoint lane = some (range.toBlock + 1) := by
  cases step with
  | fetched dropped index answer => cases dropped <;> exact .inl rfl
  | committed answers head rest fetched blocks anchor counters counters' runs outcome _ _ _ _ _
      commit =>
      by_cases own : s.run.options.lane = lane
      · subst own
        exact .inr ⟨rfl, fetched.range, rfl,
          congrArg (Option.map CheckpointRow.nextBlock) (persistChunk_checkpoint commit)⟩
      · exact .inl (congrArg (Option.map CheckpointRow.nextBlock)
          (persistChunk_checkpoint_of_ne commit (Ne.symm own)))
  | _ => exact .inl rfl

/-- A run that stops reports where it is. -/
theorem Advance.endsWith (step : Advance viem input s r) (waiting : s.run.outcome = .waiting) :
    r.1.run.outcome = .waiting ∨ r.1.run.EndsWith r.1.run.outcome := by
  cases step with
  | idle => exact .inl waiting
  | planned ranges running unfinished plan => exact .inl waiting
  | fetched dropped index answer => cases dropped <;> exact .inl waiting
  | stopped runs activeChunkSize counters outcome running ends => exact .inr ends
  | committed answers head rest fetched blocks anchor counters counters' runs outcome asked
      running batch returned anchored commit goesOn => exact goesOn

/-- The `catch` returns nothing but an interruption. -/
theorem status_handleError {answers : CatchAnswers} {error : JsError} {progress : IngestionProgress}
    (returned : (handleError answers error s).run.outcome = .returned progress) :
    progress.status = .interrupted := by
  unfold handleError at returned
  split at returned
  · cases returned
  · split at returned
    · cases returned
      rfl
    · cases returned

/-- **A run returns when it is completed or interrupted.** -/
theorem status_advance {progress : IngestionProgress} (waiting : s.run.outcome = .waiting)
    (returned : (advance viem input s).1.run.outcome = .returned progress) :
    progress.status = .completed ∨ progress.status = .interrupted := by
  have idle {t : RunState} (still : t.run.outcome = .waiting)
      (returned : t.run.outcome = .returned progress) :
      progress.status = .completed ∨ progress.status = .interrupted := by
    rw [still] at returned
    cases returned
  unfold advance at returned
  rw [waiting] at returned
  cases input with
  | plan answers =>
      simp only at returned
      split at returned
      · unfold planStep at returned
        simp only at returned
        split at returned
        · split at returned
          · split at returned
            · exact .inr (status_handleError returned)
            · cases returned
              exact .inr rfl
          · split at returned
            · exact .inr (status_handleError returned)
            · exact idle waiting returned
        · split at returned
          · exact .inr (status_handleError returned)
          · cases returned
            exact .inl rfl
      · exact idle waiting returned
  | fetchLogs dropped index answer =>
      cases dropped <;> exact idle waiting returned
  | chunk answers =>
      simp only at returned
      split at returned
      · exact idle waiting returned
      · split at returned
        · exact idle waiting returned
        · exact .inr (status_handleError returned)
        · unfold chunkStep at returned
          simp only at returned
          split at returned
          · exact idle waiting returned
          · exact .inr (status_handleError returned)
          · split at returned
            · exact .inr (status_handleError returned)
            · split at returned
              · exact .inr (status_handleError returned)
              · split at returned
                · exact .inr (status_handleError returned)
                · exact idle waiting returned

end Run

/-! ## The invariant -/

/-- There is no gap between the first block and the resume point. -/
def Database.Filled (lane : Lane) (first : ℤ) (db : Database) : Prop :=
  ∀ next ∈ db.resumePoint lane, ∀ block, first ≤ block → block < next → db.CoveredFor lane block

/-- What a worker still has to do is ready, and its run has left no gap behind. -/
def WorkerPhase.Filled (lane : Lane) (first : ℤ) (db : Database) : WorkerPhase → Prop
  | .working tasks _ => Ready lane (·.Met db) tasks
  | .ingesting plan run tasks => Ready lane (·.Met db) (.ingestLogs plan :: tasks) ∧
      run.options ∈ plan.allOptions ∧ run.options.fromBlock ≤ run.options.toBlock ∧
      run.outcome = .waiting ∧ run.Planned ∧
      (run.options.lane = lane →
        ∀ block, first ≤ block → block < run.nextBlock → db.CoveredFor lane block)
  | _ => True

/-- The coverage of a lane has not shrunk. -/
def CoverageGrows (lane : Lane) (db db' : Database) : Prop :=
  ∀ block, db.CoveredFor lane block → db'.CoveredFor lane block

theorem CoverageGrows.refl (lane : Lane) (db : Database) : CoverageGrows lane db db :=
  fun _ covered => covered

/-- What is met stays met. -/
theorem Ready.grow {lane : Lane} {db db' : Database} (grows : CoverageGrows lane db db')
    {tasks : List WorkerTask} (ready : Ready lane (·.Met db) tasks) :
    Ready lane (·.Met db') tasks := by
  refine ready.mono fun demand onLane met => ⟨met.ordered, fun block low high => ?_⟩
  rw [onLane]
  refine grows block ?_
  rw [← onLane]
  exact met.covered block low high

theorem WorkerPhase.Filled.grow {lane : Lane} {first : ℤ} {db db' : Database}
    (grows : CoverageGrows lane db db') {phase : WorkerPhase}
    (filled : phase.Filled lane first db) :
    phase.Filled lane first db' := by
  cases phase with
  | working tasks invalid => exact Ready.grow grows filled
  | ingesting plan run tasks =>
      obtain ⟨ready, due, ordered, waiting, planned, covered⟩ := filled
      exact ⟨ready.grow grows, due, ordered, waiting, planned,
        fun onLane block low high => grows block (covered onLane block low high)⟩
  | _ => trivial

/-- The first task has been done. -/
theorem Ready.next {lane : Lane} {db : Database} {task : WorkerTask} {tasks : List WorkerTask}
    (ready : Ready lane (·.Met db) (task :: tasks))
    (supplied : ∀ demand, demand.lane = lane → task.Supplies demand → demand.Met db) :
    Ready lane (·.Met db) tasks :=
  ready.2.mono fun demand onLane known => known.elim id (supplied demand onLane)

/-- What a step of one worker does for a lane. -/
structure Fills (lane : Lane) (first : ℤ) (s next : WorkerState) : Prop where
  grows : CoverageGrows lane s.index next.index
  valid : next.index.CoverageValid
  filled : next.index.Filled lane first
  phase : next.worker.phase.Filled lane first next.index

section Step

variable {viem : Viem} {keccak256 : String → String} {isAddress : String → Bool} {lane : Lane}
  {first : ℤ} {s : WorkerState}

/-- Nothing has happened to coverage and checkpoints. -/
theorem Fills.of_index {next : WorkerState} (valid : s.index.CoverageValid)
    (filled : s.index.Filled lane first) (coverage : next.index.coverage = s.index.coverage)
    (checkpoints : next.index.checkpoints = s.index.checkpoints)
    (phase : next.worker.phase.Filled lane first s.index) : Fills lane first s next := by
  have grows : CoverageGrows lane s.index next.index := by
    intro block covered
    rw [Database.CoveredFor, Database.coverageRanges, coverage]
    exact covered
  refine ⟨grows, ?_, ?_, phase.grow grows⟩
  · rw [Database.CoverageValid, coverage]
    exact valid
  · intro next mem block low high
    rw [Database.resumePoint, Database.nextBlock, Database.checkpoint, checkpoints] at mem
    exact grows block (filled next mem block low high)

/-- `verifyCoverage` throws for a range that is none. -/
theorem ordered_of_verifyCoverage {db : Database} {scope : String} {fromBlock toBlock : ℤ}
    {chainId : ℕ} {report : CoverageReport} (valid : db.CoverageValid)
    (verified : verifyCoverage db scope fromBlock toBlock chainId = .ok report) :
    fromBlock ≤ toBlock := by
  by_contra inverted
  have ranges : ∀ range ∈ db.coverageRanges chainId scope, range.fromBlock ≤ range.toBlock := by
    intro range mem
    obtain ⟨row, hrow, rfl⟩ := List.mem_map.mp mem
    exact valid row (List.mem_filter.mp hrow).1
  rw [verifyCoverage_eq ranges, coverageGaps, if_pos (not_le.mp inverted)] at verified
  cases verified

/-- Coverage has been handed over to a scope. -/
theorem Fills.handover (valid : s.index.CoverageValid) (filled : s.index.Filled lane first)
    (options : ReuseOptions) {phase : WorkerPhase}
    (done : CoverageGrows lane s.index (s.index.reuseSavingsHistoryCoverage options).2 →
      phase.Filled lane first (s.index.reuseSavingsHistoryCoverage options).2) :
    Fills lane first s
      ((s.withIndex (s.index.reuseSavingsHistoryCoverage options).2).goto phase) := by
  obtain ⟨⟨added, grown, -⟩, keeps, -⟩ := reuseSavingsHistoryCoverage_spec options s.index
  have grows : CoverageGrows lane s.index (s.index.reuseSavingsHistoryCoverage options).2 := by
    intro block covered
    rw [grown]
    obtain ⟨row, mem, inside⟩ := Database.covered_coverageRanges.mp covered
    exact Database.covered_coverageRanges.mpr ⟨row, List.mem_append_left _ mem, inside⟩
  refine ⟨grows, keeps valid, fun next mem block low high => ?_, done grows⟩
  have same : (s.index.reuseSavingsHistoryCoverage options).2.resumePoint lane
      = s.index.resumePoint lane := by
    rw [grown]
    rfl
  exact grows block (filled next (same ▸ mem) block low high)

/-- The phase after an error of `ingestLogs`. -/
theorem WorkerPhase.filled_ingestFailed {db : Database} {error : JsError} {plan : IngestPlan}
    {tasks : List WorkerTask} (ready : Ready lane (·.Met db) (.ingestLogs plan :: tasks)) :
    (WorkerState.ingestFailed error plan tasks).Filled lane first db := by
  unfold WorkerState.ingestFailed
  cases retried : plan.retry error with
  | none => trivial
  | some plan' => exact ready.retry (IngestPlan.allOptions_retry retried)

/-- **The next task keeps the lane filled.** -/
theorem Performed.fills {answers : TaskAnswers} {tasks : List WorkerTask} {task : WorkerTask}
    {next : WorkerState}
    (performed : Performed viem keccak256 isAddress answers tasks s task next)
    (valid : s.index.CoverageValid) (filled : s.index.Filled lane first)
    (ready : Ready lane (·.Met s.index) (task :: tasks))
    (begins : ∀ options, task.Calls options → options.lane = lane → options.fromBlock = first) :
    Fills lane first s next := by
  cases performed with
  | left => exact .of_index valid filled rfl rfl trivial
  | interrupted chainId invalid =>
      exact .of_index valid filled rfl rfl (ready.next fun _ _ => False.elim)
  | checked => exact .of_index valid filled rfl rfl (ready.next fun _ _ => False.elim)
  | failed plan error =>
      exact .of_index valid filled rfl rfl (WorkerPhase.filled_ingestFailed ready)
  | noop plan options due ordered finished =>
      refine .of_index valid filled rfl rfl (ready.next fun demand onLane supplies => ?_)
      have mem := IngestPlan.mem_allOptions due
      obtain rfl := supplies options mem
      have from_ := begins options mem onLane
      -- there is nothing to do because the resume point is behind the request
      refine ⟨ordered, fun block begins ends => ?_⟩
      change options.fromBlock ≤ block at begins
      change block ≤ options.toBlock at ends
      rw [onLane]
      rw [resumeBlock_eq_max] at finished
      cases stored : s.index.checkpoint options.chainId options.scope with
      | none =>
          rw [stored, Option.map_none, Option.getD_none, max_self] at finished
          omega
      | some checkpoint =>
          rw [stored, Option.map_some, Option.getD_some] at finished
          refine filled checkpoint.nextBlock ?_ block (by omega) (by omega)
          rw [← onLane]
          exact congrArg (Option.map (·.nextBlock)) stored
  | started plan options finalizedHead due unfinished ordered =>
      have mem := IngestPlan.mem_allOptions due
      refine .of_index valid filled rfl rfl ⟨ready, mem, ordered, rfl,
        planned_loopStart finalizedHead unfinished, fun onLane block low high => ?_⟩
      subst onLane
      have from_ := begins options mem rfl
      change block < resumeBlock options _ at high
      rw [resumeBlock_eq_max] at high
      cases stored : s.index.checkpoint options.chainId options.scope with
      | none =>
          rw [stored, Option.map_none, Option.getD_none, max_self] at high
          omega
      | some checkpoint =>
          rw [stored, Option.map_some, Option.getD_some] at high
          refine filled checkpoint.nextBlock ?_ block low (by omega)
          exact congrArg (Option.map (·.nextBlock)) stored
  | reused options invalid report verified complete =>
      refine .handover valid filled options fun grows => ?_
      refine (ready.grow grows).next fun demand onLane supplies => ?_
      obtain rfl := supplies
      have keeps := (reuseSavingsHistoryCoverage_spec options s.index).2.1 valid
      have ordered := ordered_of_verifyCoverage keeps verified
      exact ⟨ordered, (Database.CoverageValid.verified_iff keeps ordered _).mp
        ⟨report, verified, complete⟩⟩
  | notReused options => exact .handover valid filled options fun _ => trivial
  | called task call phase asks goesOn =>
      obtain ⟨blocks, same⟩ := @databaseStep_index viem keccak256 isAddress call
        (WorkerTask.indexesNothing asks) s.database
      have coverage : (databaseStep viem keccak256 isAddress call
          s.database).1.analytics.index.coverage = s.index.coverage := by rw [same]; rfl
      have checkpoints : (databaseStep viem keccak256 isAddress call
          s.database).1.analytics.index.checkpoints = s.index.checkpoints := by rw [same]; rfl
      refine .of_index valid filled coverage checkpoints ?_
      rcases goesOn with rfl | ⟨invalid, rfl⟩
      · trivial
      · refine ready.next fun demand _ supplies => ?_
        cases task with
        | ingestLogs plan => cases asks
        | reuseSavingsHistoryCoverage options => cases asks
        | _ => exact supplies.elim

/-- **A step of the loop keeps the lane filled.** -/
theorem Fills.ingestStep (input : RunInput) {plan : IngestPlan} {run : IngestRun}
    {tasks : List WorkerTask} (valid : s.index.CoverageValid)
    (filled : s.index.Filled lane first)
    (mine : (WorkerPhase.ingesting plan run tasks).Filled lane first s.index)
    (begins : run.options.lane = lane → run.options.fromBlock = first) :
    Fills lane first s (s.ingestStep viem input plan run tasks).1 := by
  obtain ⟨ready, due, ordered, waiting, planned, covered⟩ := mine
  have step := advance_spec viem input ⟨s.index, run⟩
  have status {progress : IngestionProgress} := @status_advance viem input ⟨s.index, run⟩ progress
    waiting
  have ends := step.endsWith waiting
  have options : (advance viem input ⟨s.index, run⟩).1.run.options = run.options :=
    step.options_eq
  obtain ⟨planned', tiles⟩ := step.planned_and_committed planned
  unfold WorkerState.ingestStep
  generalize advance viem input ⟨s.index, run⟩ = next at step status ends options planned' tiles
  have grows : CoverageGrows lane s.index next.1.database :=
    fun block covered => (step.coveredFor_iff lane block).mpr (.inl covered)
  -- the committed range closes up with what was covered before
  have upTo (onLane : run.options.lane = lane) :
      ∀ block, first ≤ block → block < next.1.run.nextBlock →
        next.1.database.CoveredFor lane block := by
    intro block low high
    rcases lt_or_ge block run.nextBlock with before | behind
    · exact grows block (covered onLane block low before)
    · refine (step.coveredFor_iff lane block).mpr (.inr ⟨onLane, ?_⟩)
      exact tiles.covers_iff.mpr ⟨behind, high⟩
  refine ⟨grows, step.coverageValid valid, ?_, ?_⟩
  · intro point mem block low high
    change next.1.database.resumePoint lane = some point at mem
    rcases step.resumePoint_eq lane with same | ⟨onLane, range, one, moved⟩
    · exact grows block (filled point (same ▸ mem) block low high)
    · rw [moved, Option.some.injEq] at mem
      rw [one] at tiles
      have last := tiles.2.2
      rw [tiles_nil] at last
      exact upTo onLane block low (by omega)
  · show (WorkerState.ingestPhase plan next.1.run tasks).Filled lane first next.1.database
    unfold WorkerState.ingestPhase
    cases outcome : next.1.run.outcome with
    | waiting =>
        refine ⟨ready.grow grows, options ▸ due, options ▸ ordered, outcome, planned',
          fun onLane => ?_⟩
        exact upTo (options ▸ onLane)
    | threw error => exact WorkerPhase.filled_ingestFailed (ready.grow grows)
    | returned progress =>
        simp only
        split
        · trivial
        · rename_i notInterrupted
          refine (ready.grow grows).next fun demand onLane supplies => ?_
          have completed := (status outcome).resolve_right notInterrupted
          rw [outcome] at ends
          have behind := (ends.resolve_left (by simp)).2 (.inl completed)
          rw [options] at behind
          obtain rfl := supplies run.options due
          have from_ := begins onLane
          refine ⟨ordered, fun block low high => ?_⟩
          change run.options.fromBlock ≤ block at low
          change block ≤ run.options.toBlock at high
          rw [onLane]
          exact upTo onLane block (by omega) (by omega)

end Step

/-! ## The system -/

/-- What is promised of a lane: the jobs are those there are, and begin at one block of it. -/
def FilledInput (hashtext : String → ℤ) (lane : Lane) (first : ℤ) : WorkerInput → Prop
  | .spawn job _ => job.Deployed hashtext ∧
      ∀ options, job.Calls options → options.lane = lane → options.fromBlock = first
  | .act _ _ => True
  | .call call => call.IndexesNothing

/-- **The lane is filled**, and so is what the workers derive from it. -/
structure Filled (hashtext : String → ℤ) (lane : Lane) (first : ℤ) (s : WorkerSystem) :
    Prop where
  jobs : ∀ worker ∈ s.workers, worker.job.Deployed hashtext ∧
    ∀ options, worker.job.Calls options → options.lane = lane → options.fromBlock = first
  follows : ∀ worker ∈ s.workers, ∀ options, worker.phase.Calls options →
    worker.job.Calls options
  valid : s.database.analytics.index.CoverageValid
  filled : s.database.analytics.index.Filled lane first
  phases : ∀ worker ∈ s.workers, worker.phase.Filled lane first s.database.analytics.index

section System

variable {viem : Viem} {keccak256 : String → String} {isAddress : String → Bool}
  {hashtext : String → ℤ} {lane : Lane} {first : ℤ} {s : WorkerSystem}

/-- **One step of a worker keeps the lane filled.** -/
theorem Moves.fills {action : WorkerAction} {t : WorkerState} {next : WorkerMove}
    (move : Moves viem keccak256 isAddress t action next)
    (deployed : t.worker.job.Deployed hashtext)
    (begins : ∀ options, t.worker.job.Calls options → options.lane = lane →
      options.fromBlock = first)
    (follows : ∀ options, t.worker.phase.Calls options → t.worker.job.Calls options)
    (valid : t.index.CoverageValid) (filled : t.index.Filled lane first)
    (mine : t.worker.phase.Filled lane first t.index) : Fills lane first t next.1 := by
  cases move with
  | idle action => exact .of_index valid filled rfl rfl mine
  | asked failed key refusals phase lock =>
      have there := phase_tryLockStep failed key refusals t
      have same : (t.tryLockStep failed key refusals).index = t.index :=
        congrArg (·.analytics.index) (tryLockStep_database failed key refusals t)
      refine .of_index valid filled (by rw [same]) (by rw [same]) ?_
      generalize (t.tryLockStep failed key refusals).worker.phase = phase' at there
      simp only [List.mem_cons, List.not_mem_nil, or_false] at there
      rcases there with rfl | rfl | rfl | rfl | rfl
      · trivial
      · exact (deployed.ready lane).mono fun _ _ => False.elim
      · trivial
      · trivial
      · trivial
  | left answers invalid phase => exact .of_index valid filled rfl rfl trivial
  | performed answers task tasks invalid next phase performed =>
      rw [phase] at mine
      refine performed.fills valid filled mine fun options calls => begins options ?_
      refine follows options ?_
      rw [phase]
      exact ⟨task, List.mem_cons_self, calls⟩
  | ingested input plan run tasks phase =>
      rw [phase] at mine
      refine .ingestStep input valid filled mine (begins run.options (follows run.options ?_))
      rw [phase]
      exact .inl rfl
  | unlocked failed phase =>
      have there := phase_unlockStep failed t
      have same : (t.unlockStep failed).index = t.index :=
        congrArg (·.analytics.index) (unlockStep_database failed t)
      refine .of_index valid filled (by rw [same]) (by rw [same]) ?_
      generalize (t.unlockStep failed).worker.phase = phase' at there
      simp only [List.mem_cons, List.not_mem_nil, or_false] at there
      rcases there with rfl | rfl
      · trivial
      · trivial
  | disconnected live => exact .of_index valid filled rfl rfl mine
  | crashed live => exact .of_index valid filled rfl rfl trivial

theorem Filled.step (state : Filled hashtext lane first s) {input : WorkerInput}
    (promised : FilledInput hashtext lane first input) :
    Filled hashtext lane first (workerStep viem keccak256 isAddress input s).1 := by
  rcases workerStep_spec viem keccak256 isAddress input s with eq |
    ⟨job, session, rfl, unused, eq⟩ | ⟨index, action, worker, next, rfl, found, move, eq⟩ |
    ⟨call, rfl, eq⟩
  · rw [eq]
    exact state
  · rw [eq]
    have starts := Worker.phase_start job session
    refine ⟨?_, ?_, state.valid, state.filled, ?_⟩ <;> intro worker mem <;>
      rcases List.mem_append.mp mem with old | new
    · exact state.jobs worker old
    · obtain rfl := List.mem_singleton.mp new
      exact promised
    · exact state.follows worker old
    · obtain rfl := List.mem_singleton.mp new
      intro options calls
      rcases starts with phase | phase
      · rw [phase] at calls
        exact calls.elim
      · rw [phase] at calls
        exact calls
    · exact state.phases worker old
    · obtain rfl := List.mem_singleton.mp new
      rcases starts with phase | phase
      · rw [phase]
        trivial
      · rw [phase]
        exact (promised.1.ready lane).mono fun _ _ => False.elim
  · rw [eq]
    have mem := List.mem_of_getElem? found
    obtain ⟨deployed, begins⟩ := state.jobs worker mem
    have fills := move.fills deployed begins (state.follows worker mem) state.valid state.filled
      (state.phases worker mem)
    have job : next.1.worker.job = worker.job := move.job_eq
    refine ⟨?_, ?_, fills.valid, fills.filled, ?_⟩ <;> intro other hother <;>
      rcases List.mem_or_eq_of_mem_set hother with old | rfl
    · exact state.jobs other old
    · rw [job]
      exact state.jobs worker mem
    · exact state.follows other old
    · intro options calls
      rw [job]
      exact (move.calls calls).elim (state.follows worker mem options) id
    · exact (state.phases other old).grow fills.grows
    · exact fills.phase
  · rw [eq]
    obtain ⟨blocks, same⟩ := @databaseStep_index viem keccak256 isAddress call promised s.database
    refine ⟨state.jobs, state.follows, ?_, ?_, fun worker mem => ?_⟩
    · show Database.CoverageValid _
      rw [same]
      exact state.valid
    · show Database.Filled lane first _
      rw [same]
      exact state.filled
    · refine (state.phases worker mem).grow ?_
      show CoverageGrows lane _ (databaseStep _ _ _ _ _).1.analytics.index
      rw [same]
      exact .refl lane _

/-- **What is derived finds its coverage.**  Where all jobs that write to a lane begin at one
block, then at any moment of any interleaving of any workers, locked or not, with connections
lost and processes dying: the lane is covered from that block up to its resume point; and
whichever rebuild of the lane a worker is about to make, `verifyCoverage` calls its range
complete. -/
theorem derived_tasks_find_coverage (viem : Viem) (keccak256 : String → String)
    (isAddress : String → Bool) (hashtext : String → ℤ) (lane : Lane) (first : ℤ)
    (database : WholeDatabase) (valid : database.analytics.index.CoverageValid)
    (filled : database.analytics.index.Filled lane first) (schedule : List WorkerInput)
    (promised : ∀ input ∈ schedule, FilledInput hashtext lane first input) :
    let s := (Machine.run (workerStep viem keccak256 isAddress) schedule (.boot database)).1
    s.database.analytics.index.Filled lane first ∧
    ∀ worker ∈ s.workers, ∀ demand ∈ worker.phase.due, demand.lane = lane →
      ∃ coverage, verifyCoverage s.database.analytics.index lane.scope
        demand.range.fromBlock demand.range.toBlock lane.chainId = .ok coverage ∧
        coverage.complete = true := by
  intro s
  have start : Filled hashtext lane first (.boot database) :=
    { jobs := fun _ mem => absurd mem List.not_mem_nil
      follows := fun _ mem => absurd mem List.not_mem_nil
      valid := valid
      filled := filled
      phases := fun _ mem => absurd mem List.not_mem_nil }
  have state : Filled hashtext lane first s :=
    Machine.run_invariant_along (fun s _ => Filled hashtext lane first s)
      (fun input s _ promised state => state.step promised) schedule
      (Machine.along_of_forall promised) start
  refine ⟨state.filled, fun worker mem demand due onLane => ?_⟩
  have ready := state.phases worker mem
  have met : demand.Met s.database.analytics.index := by
    unfold WorkerPhase.due at due
    split at due
    · rename_i task tasks invalid phase
      rw [phase] at ready
      exact ready.1 demand due onLane
    · cases due
  refine (state.valid.verified_iff met.ordered lane.chainId).mpr ?_
  rw [← onLane]
  exact met.covered

end System

/-! ### A lifetime of four blocks -/

/-- The range on Ethereum. -/
def fourBlocks : WorkerJob.LifetimeActivityRange where
  adapter := ethereumAdapter
  fromBlock := 22639007
  toBlock := 22639010
  begins := rfl

/-- Where its coverage is written. -/
def fourBlocksLane : Lane := ⟨1, "parallel-assets-ethereum-lifetime-v1"⟩

/-- The ingestion, up to the rebuild of the flows. -/
def fourBlocksSchedule : List WorkerInput :=
  [ .spawn (.runLifetimeActivityRange (fun _ => 0) ⟨0, 50⟩ none fourBlocks) 0,
    .act 0 (.tryLock false),
    .act 0 (.perform { sampleTask with start := sampleStart 30000000 }),
    .act 0 (.ingest (.plan samplePlan)),
    .act 0 (.ingest (.fetchLogs false 0 ⟨false, fun _ _ => .ok []⟩)),
    .act 0 (.ingest (.chunk sampleChunk)),
    .act 0 (.ingest (.plan samplePlan)) ]

theorem filledInput_fourBlocksSchedule : ∀ input ∈ fourBlocksSchedule,
    FilledInput (fun _ => 0) fourBlocksLane 22639007 input := by
  intro input mem
  rcases List.mem_cons.mp mem with rfl | later
  · refine ⟨.runLifetimeActivityRange _ _ _, ?_⟩
    rintro options ⟨task, mem, calls⟩ -
    simp only [WorkerJob.runLifetimeActivityRange, List.mem_cons, List.not_mem_nil, or_false]
      at mem
    rcases mem with rfl | rfl | rfl
    · obtain rfl := List.mem_singleton.mp calls
      rfl
    · exact calls.elim
    · exact calls.elim
  · simp only [List.mem_cons, List.not_mem_nil, or_false] at later
    rcases later with rfl | rfl | rfl | rfl | rfl | rfl <;> trivial

theorem derived_tasks_find_coverage_lifetime :
    let s := (Machine.run (workerStep sampleViem id fun _ => false) fourBlocksSchedule
      (.boot .empty)).1
    s.workers.map (·.phase.due) = [some ⟨fourBlocksLane, ⟨22639007, 22639010⟩⟩] ∧
    ∃ coverage, verifyCoverage s.database.analytics.index fourBlocksLane.scope
      22639007 22639010 fourBlocksLane.chainId = .ok coverage ∧ coverage.complete = true := by
  have found := derived_tasks_find_coverage sampleViem id (fun _ => false) (fun _ => 0)
    fourBlocksLane 22639007 .empty (fun _ mem => absurd mem List.not_mem_nil)
    (fun _ mem => by cases mem) fourBlocksSchedule filledInput_fourBlocksSchedule
  have waits : (Machine.run (workerStep sampleViem id fun _ => false) fourBlocksSchedule
      (.boot .empty)).1.workers.map (·.phase.due)
        = [some ⟨fourBlocksLane, ⟨22639007, 22639010⟩⟩] := by decide +kernel
  generalize (Machine.run (workerStep sampleViem id fun _ => false) fourBlocksSchedule
    (.boot .empty)).1 = s at found waits ⊢
  have listed : some (⟨fourBlocksLane, ⟨22639007, 22639010⟩⟩ : Demand)
      ∈ s.workers.map (·.phase.due) := by
    rw [waits]
    exact List.mem_singleton_self _
  obtain ⟨worker, mem, due⟩ := List.mem_map.mp listed
  exact ⟨waits, found.2 worker mem _ due rfl⟩

end UsdpIndexer
