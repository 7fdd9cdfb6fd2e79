import UsdpIndexer.Indexer.RunTiling
import UsdpIndexer.Indexer.System

/-!
# Checkpoints under interleaved runs

A run reads the checkpoint of its lane once, and from then on overwrites it after
every chunk.  The workers hold an advisory lock while they do so; the commands
of the command line do not, and two runs on one lane can undo each other: a slow
run puts the resume point back behind the chunks of a fast one, and behind the
anchor the fast one has left, because the anchor columns are coalesced and the
resume point is not.

`NoStaleCommit` is the condition on the interleaving under which this cannot
happen, and `checkpoints_monotone_iff` says that it is the exact one.
-/

namespace UsdpIndexer

open IntegerCover

/-! ## What is asked of the checkpoint -/

/-- The stored anchor lies below the resume point. -/
def Database.AnchorBelow (db : Database) (lane : Lane) : Prop :=
  ∀ last ∈ db.lastCompleted lane, ∀ next ∈ db.resumePoint lane, last < next

/-- The resume point has not gone back. -/
def ResumePointLe (lane : Lane) (before after : Database) : Prop :=
  ∀ next ∈ before.resumePoint lane, ∃ next' ∈ after.resumePoint lane, next ≤ next'

/-- A step does not take the resume point of the lane back, and leaves its anchor
below it. -/
def KeepsCheckpoint (viem : Viem) (lane : Lane) (input : SystemInput) (s : SystemState) : Prop :=
  ResumePointLe lane s.database (systemStep viem input s).1.database ∧
    (systemStep viem input s).1.database.AnchorBelow lane

/-- No run commits a chunk that ends before one that was committed on the lane
since the run has read its checkpoint. -/
def NoStaleCommit (lane : Lane) (trace : List SystemEvent) : Prop :=
  ∀ before since after run range,
    trace = before ++ .started run lane :: since ++ .committed run lane range :: after →
      ∀ other range', .committed other lane range' ∈ since → range'.toBlock ≤ range.toBlock

/-- A prefix of a trace without stale commits has none. -/
theorem NoStaleCommit.of_append {lane : Lane} {trace trace' : List SystemEvent}
    (noStale : NoStaleCommit lane (trace ++ trace')) : NoStaleCommit lane trace := by
  intro before since after run range split
  exact noStale before since (after ++ trace') run range (by rw [split]; simp)

/-- The block provider is truthful in every step. -/
def SystemInput.Truthful : SystemInput → Prop
  | .start _ _ => True
  | .step _ input => input.Truthful

/-! ## One step -/

/-- What a step of a run does to the checkpoints: nothing, or a new resume point
for its own lane right behind the range it commits. -/
theorem Advance.checkpoint {viem : Viem} {input : RunInput} {s : RunState}
    {r : RunState × List BlockRange} (step : Advance viem input s r)
    (truthful : input.Truthful) :
    (r.2 = [] ∧ r.1.run.nextBlock = s.run.nextBlock ∧
      r.1.database.checkpoints = s.database.checkpoints) ∨
    ∃ range, r.2 = [range] ∧
      r.1.database.resumePoint s.run.options.lane = some (range.toBlock + 1) ∧
      (r.1.database.lastCompleted s.run.options.lane = some range.toBlock ∨
        r.1.database.lastCompleted s.run.options.lane
          = s.database.lastCompleted s.run.options.lane) ∧
      ∀ lane, lane ≠ s.run.options.lane →
        r.1.database.resumePoint lane = s.database.resumePoint lane ∧
        r.1.database.lastCompleted lane = s.database.lastCompleted lane := by
  cases step with
  | fetched dropped index answer => cases dropped <;> exact .inl ⟨rfl, rfl, rfl⟩
  | committed answers head rest fetched blocks anchor counters counters' runs outcome asked _ _
      _ read commit =>
      subst asked
      have stored := persistChunk_checkpoint commit
      refine .inr ⟨fetched.range, rfl, congrArg (Option.map CheckpointRow.nextBlock) stored, ?_,
        fun lane other => ?_⟩
      · have last := congrArg (Option.bind · CheckpointRow.lastCompletedBlock) stored
        cases anchor with
        | none => exact .inr last
        | some block =>
            refine .inl (last.trans ?_)
            exact congrArg some (readAnchor_number truthful read block rfl)
      · have same := persistChunk_checkpoint_of_ne commit other
        exact ⟨congrArg (Option.map CheckpointRow.nextBlock) same,
          congrArg (Option.bind · CheckpointRow.lastCompletedBlock) same⟩
  | _ => exact .inl ⟨rfl, rfl, rfl⟩

/-! ## Without stale commits nothing goes back -/

/-- The run sees the resume point of its lane: it is the one the run has read, or
behind its own chunks, or one that the trace shows was written since. -/
def SeesResumePoint (lane : Lane) (db : Database) (trace : List SystemEvent) (index : ℕ)
    (nextBlock : ℤ) : Prop :=
  ∃ before since, trace = before ++ .started index lane :: since ∧
    ∀ next ∈ db.resumePoint lane, next ≤ nextBlock ∨
      ∃ other range, .committed other lane range ∈ since ∧ next = range.toBlock + 1

/-- Events that leave the resume point alone do not hide it. -/
theorem SeesResumePoint.append {lane : Lane} {db db' : Database} {trace : List SystemEvent}
    {index : ℕ} {nextBlock : ℤ} (sees : SeesResumePoint lane db trace index nextBlock)
    (same : db'.resumePoint lane = db.resumePoint lane) (events : List SystemEvent) :
    SeesResumePoint lane db' (trace ++ events) index nextBlock := by
  obtain ⟨before, since, rfl, seen⟩ := sees
  refine ⟨before, since ++ events, by simp, fun next mem => (seen next (same ▸ mem)).imp_right ?_⟩
  rintro ⟨other, range, committed, eq⟩
  exact ⟨other, range, List.mem_append_left _ committed, eq⟩

/-- What has just been written is in sight of every run. -/
theorem SeesResumePoint.committed {lane : Lane} {db db' : Database} {trace : List SystemEvent}
    {index : ℕ} {nextBlock : ℤ} (sees : SeesResumePoint lane db trace index nextBlock)
    {range : BlockRange} (moved : db'.resumePoint lane = some (range.toBlock + 1)) (other : ℕ)
    (nextBlock' : ℤ) :
    SeesResumePoint lane db' (trace ++ [.committed other lane range]) index nextBlock' := by
  obtain ⟨before, since, rfl, -⟩ := sees
  refine ⟨before, since ++ [.committed other lane range], by simp, fun next mem =>
    .inr ⟨other, range, by simp, ?_⟩⟩
  rw [moved, Option.mem_some_iff] at mem
  exact mem.symm

/-- Every run has its plan, every run on the lane sees the resume point, and the
anchor lies below it. -/
structure Aware (lane : Lane) (s : SystemState) (trace : List SystemEvent) : Prop where
  planned : ∀ run ∈ s.runs, run.Planned
  below : s.database.AnchorBelow lane
  sees : ∀ index run, s.runs[index]? = some run → run.options.lane = lane →
    SeesResumePoint lane s.database trace index run.nextBlock

theorem ResumePointLe.of_eq {lane : Lane} {before after : Database}
    (same : after.resumePoint lane = before.resumePoint lane) :
    ResumePointLe lane before after := by
  intro next mem
  exact ⟨next, same ▸ mem, le_rfl⟩

/-- A run that has just read the checkpoint is aware of it. -/
theorem Aware.start {lane : Lane} {s : SystemState} {trace : List SystemEvent}
    (aware : Aware lane s trace) {options : IngestLogsOptions} (finalizedHead : ℤ)
    (unfinished : resumeBlock options (s.database.checkpoint options.chainId options.scope)
      ≤ options.toBlock) :
    Aware lane
      ⟨(loopStart options finalizedHead s.database).database,
        s.runs ++ [(loopStart options finalizedHead s.database).run]⟩
      (trace ++ [.started s.runs.length options.lane]) where
  planned := by
    intro run mem
    rcases List.mem_append.mp mem with old | new
    · exact aware.planned run old
    · obtain rfl := List.mem_singleton.mp new
      exact planned_loopStart finalizedHead unfinished
  below := aware.below
  sees := by
    intro index run found onLane
    rcases getElem?_append_run found with old | ⟨rfl, rfl⟩
    · exact (aware.sees index run old onLane).append rfl _
    · subst onLane
      refine ⟨trace, [], rfl, fun next mem => .inl ?_⟩
      have stored : (s.database.checkpoint options.chainId options.scope).map (·.nextBlock)
          = some next := mem
      show next ≤ resumeBlock options _
      rw [resumeBlock_eq_max, stored]
      exact le_max_right _ _

/-- A lane with an anchor has a resume point. -/
theorem Database.resumePoint_of_lastCompleted {db : Database} {lane : Lane} {last : ℤ}
    (anchored : db.lastCompleted lane = some last) : ∃ next, db.resumePoint lane = some next := by
  obtain ⟨checkpoint, stored, -⟩ := Option.bind_eq_some_iff.mp anchored
  exact ⟨checkpoint.nextBlock, by simp [Database.resumePoint, Database.nextBlock, stored]⟩

section Step

variable {lane : Lane} {s : SystemState} {trace : List SystemEvent} {index : ℕ}
  {run run' : IngestRun} {db : Database}

/-- A step that does not move the resume point of the lane. -/
theorem Aware.quiet (aware : Aware lane s trace) (found : s.runs[index]? = some run)
    (planned : run'.Planned) (options : run'.options = run.options)
    (point : db.resumePoint lane = s.database.resumePoint lane)
    (last : db.lastCompleted lane = s.database.lastCompleted lane)
    (stays : run.options.lane = lane → run'.nextBlock = run.nextBlock)
    (events : List SystemEvent) :
    Aware lane ⟨db, s.runs.set index run'⟩ (trace ++ events) where
  planned := by
    intro other mem
    rcases List.mem_or_eq_of_mem_set mem with old | rfl
    · exact aware.planned other old
    · exact planned
  below := by
    simp only [Database.AnchorBelow, point, last]
    exact aware.below
  sees := by
    intro i other at_ onLane
    rcases getElem?_set_run found at_ with ⟨rfl, rfl⟩ | ⟨-, old⟩
    · rw [options] at onLane
      rw [stays onLane]
      exact (aware.sees i run found onLane).append point events
    · exact (aware.sees i other old onLane).append point events

/-- A step that commits a range to the lane, no stale one. -/
theorem Aware.commit {range : BlockRange} (aware : Aware lane s trace)
    (found : s.runs[index]? = some run) (onLane : run.options.lane = lane)
    (planned : run'.Planned) (next : run.nextBlock ≤ range.toBlock)
    (moved : db.resumePoint lane = some (range.toBlock + 1))
    (anchor : db.lastCompleted lane = some range.toBlock ∨
      db.lastCompleted lane = s.database.lastCompleted lane)
    (noStale : NoStaleCommit lane (trace ++ [.committed index lane range])) :
    ResumePointLe lane s.database db ∧
      Aware lane ⟨db, s.runs.set index run'⟩ (trace ++ [.committed index lane range]) := by
  -- what is stored is what the run has read or left, or is not beyond its range
  have forward : ∀ stored ∈ s.database.resumePoint lane, stored ≤ range.toBlock + 1 := by
    intro stored mem
    obtain ⟨before, since, rfl, seen⟩ := aware.sees index run found onLane
    rcases seen stored mem with read | ⟨other, range', committed, rfl⟩
    · omega
    · have := noStale before since [] index range (by simp) other range' committed
      omega
  refine ⟨fun stored mem => ⟨_, moved, forward stored mem⟩, ?_, ?_, ?_⟩
  · intro other mem
    rcases List.mem_or_eq_of_mem_set mem with old | rfl
    · exact aware.planned other old
    · exact planned
  · intro last hlast point hpoint
    change db.lastCompleted lane = some last at hlast
    change db.resumePoint lane = some point at hpoint
    rw [moved, Option.some.injEq] at hpoint
    rcases anchor with new | old
    · rw [new, Option.some.injEq] at hlast
      omega
    · -- the anchor is the old one, and the resume point has not gone back
      rw [old] at hlast
      obtain ⟨stored, hstored⟩ := Database.resumePoint_of_lastCompleted hlast
      have below := aware.below last hlast stored hstored
      have := forward stored hstored
      omega
  · intro i other at_ sameLane
    rcases getElem?_set_run found at_ with ⟨rfl, rfl⟩ | ⟨-, old⟩
    · exact (aware.sees i run found onLane).committed moved i _
    · exact (aware.sees i other old sameLane).committed moved index _

/-- **One step of the system**: if it commits no stale chunk, it keeps the checkpoint
and everyone's awareness of it. -/
theorem Aware.step (viem : Viem) {input : SystemInput} (aware : Aware lane s trace)
    (truthful : input.Truthful)
    (noStale : NoStaleCommit lane (trace ++ (systemStep viem input s).2)) :
    KeepsCheckpoint viem lane input s ∧
      Aware lane (systemStep viem input s).1 (trace ++ (systemStep viem input s).2) := by
  suffices ResumePointLe lane s.database (systemStep viem input s).1.database ∧
      Aware lane (systemStep viem input s).1 (trace ++ (systemStep viem input s).2) from
    ⟨⟨this.1, this.2.below⟩, this.2⟩
  rcases systemStep_spec viem input s with eq | ⟨options, answers, finalizedHead, rfl, start, eq⟩ |
    ⟨index, runInput, run, next, rfl, found, step, eq⟩
  · rw [eq, List.append_nil]
    exact ⟨.of_eq rfl, aware⟩
  · rw [eq]
    exact ⟨.of_eq rfl, aware.start finalizedHead start⟩
  · rw [eq] at noStale ⊢
    obtain ⟨planned, tiles⟩ :=
      step.planned_and_committed (aware.planned run (List.mem_of_getElem? found))
    have options : next.1.run.options = run.options := step.options_eq
    rcases step.checkpoint truthful with ⟨none, nextBlock, same⟩ |
      ⟨range, one, moved, anchor, others⟩
    · -- nothing has been committed, on this lane or another
      have point : next.1.database.resumePoint lane = s.database.resumePoint lane := by
        simp only [Database.resumePoint, Database.nextBlock, Database.checkpoint, same]
      have last : next.1.database.lastCompleted lane = s.database.lastCompleted lane := by
        simp only [Database.lastCompleted, Database.checkpoint, same]
      exact ⟨.of_eq point,
        aware.quiet found planned options point last (fun _ => nextBlock) _⟩
    · rw [one] at tiles noStale ⊢
      obtain ⟨-, nonempty, -⟩ := tiles
      by_cases onLane : run.options.lane = lane
      · subst onLane
        exact aware.commit found rfl planned nonempty moved anchor noStale
      · obtain ⟨point, last⟩ := others lane (Ne.symm onLane)
        exact ⟨.of_eq point,
          aware.quiet found planned options point last (fun same => absurd same onLane) _⟩

end Step

/-- A schedule without stale commits keeps the checkpoint at every step. -/
theorem Aware.along {viem : Viem} {lane : Lane} {s : SystemState} {trace : List SystemEvent}
    (aware : Aware lane s trace) (schedule : List SystemInput)
    (truthful : ∀ input ∈ schedule, input.Truthful)
    (noStale : NoStaleCommit lane (trace ++ (Machine.run (systemStep viem) schedule s).2)) :
    Machine.Along (systemStep viem) (KeepsCheckpoint viem lane) schedule s := by
  induction schedule generalizing s trace with
  | nil => exact trivial
  | cons input schedule ih =>
      rw [Machine.run_cons] at noStale
      simp only [← List.append_assoc] at noStale
      obtain ⟨keeps, next⟩ := aware.step viem (truthful input List.mem_cons_self)
        noStale.of_append
      exact ⟨keeps, ih next (fun i mem => truthful i (List.mem_cons_of_mem _ mem)) noStale⟩

/-! ## What never goes back has no stale commits -/

/-- The ranges committed to a lane. -/
def commitsOn (lane : Lane) (trace : List SystemEvent) : List BlockRange :=
  trace.filterMap fun event =>
    match event with
    | .committed _ lane' range => if lane' = lane then some range else none
    | .started _ _ => none

theorem commitsOn_append (lane : Lane) (trace trace' : List SystemEvent) :
    commitsOn lane (trace ++ trace') = commitsOn lane trace ++ commitsOn lane trace' :=
  List.filterMap_append

theorem mem_commitsOn {lane : Lane} {trace : List SystemEvent} (run : ℕ) {range : BlockRange}
    (mem : .committed run lane range ∈ trace) : range ∈ commitsOn lane trace :=
  List.mem_filterMap.mpr ⟨_, mem, by simp⟩

/-- Commits that end in ascending order are not stale. -/
theorem noStaleCommit_of_pairwise {lane : Lane} {trace : List SystemEvent}
    (sorted : (commitsOn lane trace).Pairwise fun a b => a.toBlock ≤ b.toBlock) :
    NoStaleCommit lane trace := by
  rintro before since after run range rfl other range' mem
  rw [show before ++ .started run lane :: since ++ .committed run lane range :: after
      = (before ++ .started run lane :: since) ++ (.committed run lane range :: after) by simp,
    commitsOn_append, List.pairwise_append] at sorted
  refine sorted.2.2 range' ?_ range ?_
  · exact mem_commitsOn other (by simp [mem])
  · exact mem_commitsOn run List.mem_cons_self

/-- The commits so far end in ascending order, behind the resume point. -/
structure Ascending (lane : Lane) (s : SystemState) (trace : List SystemEvent) : Prop where
  sorted : (commitsOn lane trace).Pairwise fun a b => a.toBlock ≤ b.toBlock
  behind : ∀ range ∈ commitsOn lane trace,
    ∃ next ∈ s.database.resumePoint lane, range.toBlock + 1 ≤ next

theorem Ascending.step {viem : Viem} {lane : Lane} {s : SystemState} {trace : List SystemEvent}
    {input : SystemInput} (truthful : input.Truthful)
    (keeps : KeepsCheckpoint viem lane input s) (ascending : Ascending lane s trace) :
    Ascending lane (systemStep viem input s).1 (trace ++ (systemStep viem input s).2) := by
  have stays : ∀ range ∈ commitsOn lane trace,
      ∃ next ∈ (systemStep viem input s).1.database.resumePoint lane, range.toBlock + 1 ≤ next := by
    intro range mem
    obtain ⟨next, stored, le⟩ := ascending.behind range mem
    obtain ⟨next', stored', le'⟩ := keeps.1 next stored
    exact ⟨next', stored', le.trans le'⟩
  -- a step without a commit on the lane adds nothing to the list
  have quiet (none : commitsOn lane (systemStep viem input s).2 = []) :
      Ascending lane (systemStep viem input s).1 (trace ++ (systemStep viem input s).2) := by
    constructor
    · rw [commitsOn_append, none, List.append_nil]
      exact ascending.sorted
    · rw [commitsOn_append, none, List.append_nil]
      exact stays
  rcases systemStep_spec viem input s with eq | ⟨options, answers, finalizedHead, rfl, -, eq⟩ |
    ⟨index, runInput, run, next, rfl, found, step, eq⟩
  · exact quiet (by rw [eq]; rfl)
  · exact quiet (by rw [eq]; rfl)
  · rcases step.checkpoint truthful with ⟨none, -⟩ | ⟨range, one, moved, -⟩
    · exact quiet (by rw [eq, none]; rfl)
    · by_cases onLane : run.options.lane = lane
      · subst onLane
        rw [eq, one] at stays ⊢
        have added : commitsOn run.options.lane [.committed index run.options.lane range]
            = [range] := by simp [commitsOn]
        change ∀ range' ∈ commitsOn run.options.lane trace,
          ∃ n ∈ next.1.database.resumePoint run.options.lane, range'.toBlock + 1 ≤ n at stays
        constructor
        · rw [List.map_singleton, commitsOn_append, added, List.pairwise_append]
          refine ⟨ascending.sorted, List.pairwise_singleton _ _, ?_⟩
          intro range' mem other hother
          obtain rfl := List.mem_singleton.mp hother
          obtain ⟨n, stored, le⟩ := stays range' mem
          rw [moved, Option.mem_some_iff] at stored
          omega
        · rw [List.map_singleton, commitsOn_append, added]
          intro range' mem
          rcases List.mem_append.mp mem with old | new
          · exact stays range' old
          · obtain rfl := List.mem_singleton.mp new
            exact ⟨_, moved, le_rfl⟩
      · exact quiet (by rw [eq, one]; simp [commitsOn, onLane])

/-! ## The result -/

/-- **When checkpoints never go back.**  From any database whose anchor lies below
its resume point, and for any interleaving of any runs, every step keeps the
resume point from going back and the anchor below it exactly if no run commits a
stale chunk. -/
theorem checkpoints_monotone_iff (viem : Viem) (lane : Lane) (db : Database)
    (below : db.AnchorBelow lane) (schedule : List SystemInput)
    (truthful : ∀ input ∈ schedule, input.Truthful) :
    Machine.Along (systemStep viem) (KeepsCheckpoint viem lane) schedule ⟨db, []⟩
      ↔ NoStaleCommit lane (Machine.run (systemStep viem) schedule ⟨db, []⟩).2 := by
  constructor
  · intro keeps
    have both : Machine.Along (systemStep viem)
        (fun input s => input.Truthful ∧ KeepsCheckpoint viem lane input s) schedule ⟨db, []⟩ :=
      (Machine.along_of_forall truthful).and keeps
    have ascending := Machine.run_invariant_along (fun s trace => Ascending lane s trace)
      (fun input s trace allowed ascending => ascending.step allowed.1 allowed.2) schedule
      both ⟨List.Pairwise.nil, fun _ mem => nomatch mem⟩
    exact noStaleCommit_of_pairwise ascending.sorted
  · intro noStale
    have start : Aware lane ⟨db, []⟩ [] :=
      { planned := fun _ mem => nomatch mem
        below := below
        sees := fun _ _ found => nomatch found }
    exact start.along schedule truthful noStale

/-! ### A slow run behind a fast one

Two runs over `[0, 99]` in two chunks read the checkpoint of the empty lane.  The
first commits both chunks before the second commits its first. -/

/-- The order of the steps. -/
def overtakenSchedule : List SystemInput :=
  [.start (sampleOptions 0 99 50) (sampleStart 200),
    .start (sampleOptions 0 99 50) (sampleStart 200),
    .step 0 (.plan samplePlan),
    .step 1 (.plan samplePlan),
    .step 0 (.fetchLogs false 0 ⟨false, fun _ _ => .ok []⟩),
    .step 0 (.fetchLogs false 1 ⟨false, fun _ _ => .ok []⟩),
    .step 1 (.fetchLogs false 0 ⟨false, fun _ _ => .ok []⟩),
    .step 0 (.chunk sampleChunk),
    .step 0 (.chunk sampleChunk),
    .step 1 (.chunk sampleChunk)]

/-- The lane of both. -/
def sampleLane : Lane := ⟨HYPEREVM_CHAIN_ID, DEFAULT_INDEXER_SCOPE⟩

theorem truthful_overtakenSchedule : ∀ input ∈ overtakenSchedule, input.Truthful := by
  have truthful : sampleChunk.Truthful := by
    rintro number _ ⟨⟩
    rfl
  simp [overtakenSchedule, SystemInput.Truthful, RunInput.Truthful, truthful]

/-- The iff at work: the last commit is stale, so some step of this schedule does not
keep the checkpoint. -/
theorem checkpoints_monotone_iff_overtaken :
    ¬ Machine.Along (systemStep sampleViem) (KeepsCheckpoint sampleViem sampleLane)
      overtakenSchedule ⟨.empty, []⟩ := by
  rw [checkpoints_monotone_iff sampleViem sampleLane .empty (fun _ none => nomatch none)
    overtakenSchedule truthful_overtakenSchedule]
  intro noStale
  have trace : (Machine.run (systemStep sampleViem) overtakenSchedule ⟨.empty, []⟩).2
      = [.started 0 sampleLane, .started 1 sampleLane,
          .committed 0 sampleLane ⟨0, 49⟩, .committed 0 sampleLane ⟨50, 99⟩,
          .committed 1 sampleLane ⟨0, 49⟩] := by
    decide +kernel
  have := noStale [.started 0 sampleLane]
    [.committed 0 sampleLane ⟨0, 49⟩, .committed 0 sampleLane ⟨50, 99⟩] [] 1 ⟨0, 49⟩ trace 0
    ⟨50, 99⟩ (by simp)
  simp at this

/-- **A checkpoint that goes back.**  The second run takes the resume point from 100
to 50, below the anchor 99 that the first has left. -/
theorem checkpoint_goes_back :
    let before := (Machine.run (systemStep sampleViem) (overtakenSchedule.take 9)
      ⟨.empty, []⟩).1.database
    let after := (Machine.run (systemStep sampleViem) overtakenSchedule ⟨.empty, []⟩).1.database
    before.resumePoint sampleLane = some 100 ∧ before.lastCompleted sampleLane = some 99 ∧
      after.resumePoint sampleLane = some 50 ∧ after.lastCompleted sampleLane = some 99 := by
  decide +kernel

end UsdpIndexer
