import UsdpIndexer.Indexer.Ingest

/-!
# One run tiles its range

Up to fifty chunks are fetched ahead with one chunk size, and each fetch may
shrink its own range.  The loop drops the rest of a batch exactly when a range
came back short, so that the committed ranges follow each other without gap.

`IngestRun.Planned` is what a run has ahead of it: the fetches still to be awaited
are planned from `nextBlock` on.  A chunk that is awaited starts where the last
one stopped, and the next in the batch starts where this one was *planned* to
stop, which is where it did stop unless it was short.  `RunInvariant` adds what
lies behind: the committed ranges tile up to `nextBlock`, and that is the stored
resume point.
-/

namespace UsdpIndexer

open IntegerCover

/-- The ranges follow each other from `start` up to, not including, `stop`. -/
abbrev RangeTiles (start : ℤ) (ranges : List BlockRange) (stop : ℤ) : Prop :=
  Tiles BlockRange.fromBlock BlockRange.toBlock start ranges stop

/-- The block provider answers a request for a block with that block. -/
def ChunkAnswers.Truthful (answers : ChunkAnswers) : Prop :=
  ∀ number block, answers.getBlock number = .ok block → block.number = some number

/-- The anchors a step reads are the blocks it asked for. -/
def RunInput.Truthful : RunInput → Prop
  | .chunk answers => answers.Truthful
  | _ => True

/-- What a run has ahead of it: fetches that follow each other from `nextBlock`
on, inside the request. -/
structure IngestRun.Planned (run : IngestRun) : Prop where
  bounded : run.nextBlock ≤ run.options.toBlock + 1
  sound : ∀ fetch ∈ run.fetchedBatch, fetch.Sound fun _ _ => True
  batch : ∃ stop, RangeTiles run.nextBlock (run.fetchedBatch.map LogFetch.planned) stop ∧
    stop ≤ run.options.toBlock + 1

/-- A run that started at `start` and has committed these ranges. -/
structure RunInvariant (start : ℤ) (s : RunState) (committed : List BlockRange) : Prop where
  planned : s.run.Planned
  tiles : RangeTiles start committed s.run.nextBlock
  stored : committed ≠ [] →
    s.database.nextBlock s.run.options.chainId s.run.options.scope = some s.run.nextBlock
  reported : ∀ progress, s.run.outcome = .returned progress →
    progress.nextBlock = s.run.nextBlock ∧
      (progress.status.Successful → s.run.options.toBlock < s.run.nextBlock)

theorem RunInput.meets_true (addresses : List String) (input : RunInput) :
    input.Meets addresses fun _ _ => True := by
  cases input with
  | fetchLogs dropped index answer => exact fun _ _ _ => trivial
  | _ => trivial

/-- A chunk has the anchor it was given, or is not due for one. -/
theorem readAnchor_eq_ok {answers : ChunkAnswers} {run : IngestRun} {range : BlockRange}
    {anchor : Option StoredBlock} (read : readAnchor answers run range = .ok anchor) :
    (∃ block stored, answers.getBlock range.toBlock = .ok block ∧
      asStoredBlock block = .ok stored ∧ anchor = some stored) ∨
    (shouldAnchor run range = false ∧ anchor = none) := by
  unfold readAnchor at read
  split at read
  · cases answered : answers.getBlock range.toBlock with
    | error error => rw [answered] at read; cases read
    | ok block =>
        rw [answered] at read
        change (asStoredBlock block >>= fun anchor => .ok (some anchor)) = _ at read
        cases stored : asStoredBlock block with
        | error error => rw [stored] at read; cases read
        | ok anchor =>
            rw [stored] at read
            cases read
            exact .inl ⟨block, anchor, rfl, stored, rfl⟩
  · rename_i notDue
    cases read
    exact .inr ⟨by simpa using notDue, rfl⟩

/-- The anchor of a chunk is the last block of its range. -/
theorem readAnchor_number {answers : ChunkAnswers} {run : IngestRun} {range : BlockRange}
    {anchor : Option StoredBlock} (truthful : answers.Truthful)
    (read : readAnchor answers run range = .ok anchor) :
    ∀ block ∈ anchor, block.number = range.toBlock := by
  rcases readAnchor_eq_ok read with ⟨block, stored, answered, mined, rfl⟩ | ⟨-, rfl⟩
  · rintro _ ⟨⟩
    have number := truthful range.toBlock block answered
    rw [asStoredBlock_number mined, Option.some.injEq] at number
    exact number
  · simp

/-- The chunk that ends at the end of the request has an anchor. -/
theorem readAnchor_isSome {answers : ChunkAnswers} {run : IngestRun} {range : BlockRange}
    {anchor : Option StoredBlock} (read : readAnchor answers run range = .ok anchor)
    (final : range.toBlock = run.options.toBlock) : anchor.isSome := by
  rcases readAnchor_eq_ok read with ⟨block, stored, -, -, rfl⟩ | ⟨notDue, rfl⟩
  · rfl
  · simp [shouldAnchor, final] at notDue

/-- **A step keeps the plan**, and commits at most one range: the next one. -/
theorem Advance.planned_and_committed {viem : Viem} {input : RunInput} {s : RunState}
    {r : RunState × List BlockRange} (step : Advance viem input s r) (planned : s.run.Planned) :
    r.1.run.Planned ∧ RangeTiles s.run.nextBlock r.2 r.1.run.nextBlock := by
  have sound := step.sound (RunInput.meets_true _ input) planned.sound
  cases step with
  | planned ranges running unfinished plan =>
      obtain ⟨stop, tiles, bounded⟩ := (planBatch_eq_ok plan (by omega)).1
      have map_planned : (ranges.map (LogFetch.start · s.run.activeChunkSize)).map
          LogFetch.planned = ranges := by
        rw [List.map_map]
        exact List.map_id' _
      refine ⟨⟨planned.bounded, sound, stop, ?_, bounded⟩, rfl⟩
      rw [map_planned]
      exact tiles
  | fetched dropped index answer =>
      cases dropped with
      | true => exact ⟨⟨planned.bounded, sound, planned.batch⟩, rfl⟩
      | false =>
          obtain ⟨stop, tiles, bounded⟩ := planned.batch
          refine ⟨⟨planned.bounded, sound, stop, ?_, bounded⟩, rfl⟩
          show RangeTiles _ ((fetchAt _ _ _ _ s.run.fetchedBatch _).1.map _) _
          rw [fetchAt_planned]
          exact tiles
  | committed answers head rest fetched blocks anchor counters counters' runs outcome asked
      running batch returned anchored commit goesOn =>
      obtain ⟨-, -, starts, nonempty, within⟩ :=
        (planned.sound head (by simp [batch])).returned fetched returned
      obtain ⟨stop, tiles, bounded⟩ := planned.batch
      rw [batch, List.map_cons, RangeTiles, tiles_cons] at tiles
      obtain ⟨begins, -, tiles⟩ := tiles
      have last := tiles.le
      have inside : fetched.range.toBlock + 1 ≤ s.run.options.toBlock + 1 :=
        le_trans (by omega) bounded
      refine ⟨⟨inside, sound, ?_⟩, by omega, by omega, rfl⟩
      by_cases short : fetched.range.toBlock ≠ head.planned.toBlock
      · -- a short range drops the rest of the batch
        refine ⟨fetched.range.toBlock + 1, ?_, inside⟩
        simp [IngestRun.afterChunk, short]
      · -- otherwise the next fetch was planned from where this one has stopped
        refine ⟨stop, ?_, bounded⟩
        simp only [IngestRun.afterChunk, short, ↓reduceIte]
        rw [not_not.mp short]
        exact tiles
  | idle => exact ⟨planned, rfl⟩
  | stopped => exact ⟨⟨planned.bounded, sound, planned.batch⟩, rfl⟩

/-- **One step keeps the invariant**, whatever the provider, the database and the
abort signal do. -/
theorem Advance.runInvariant {viem : Viem} {input : RunInput} {s : RunState}
    {r : RunState × List BlockRange} {start : ℤ} {committed : List BlockRange}
    (step : Advance viem input s r) (inv : RunInvariant start s committed) :
    RunInvariant start r.1 (committed ++ r.2) := by
  obtain ⟨planned, next⟩ := step.planned_and_committed inv.planned
  have tiles := next.append inv.tiles
  cases step with
  | fetched dropped index answer =>
      rw [List.append_nil] at tiles ⊢
      cases dropped <;> exact ⟨planned, tiles, inv.stored, inv.reported⟩
  | stopped runs activeChunkSize counters outcome running ends =>
      rw [List.append_nil] at tiles ⊢
      refine ⟨planned, tiles, inv.stored, ?_⟩
      rintro progress ⟨⟩
      exact ends
  | committed answers head rest fetched blocks anchor counters counters' runs outcome asked
      running batch returned anchored commit goesOn =>
      refine ⟨planned, tiles, fun _ => ?_, ?_⟩
      · exact congrArg (Option.map CheckpointRow.nextBlock) (persistChunk_checkpoint commit)
      · rintro progress ⟨⟩
        rcases goesOn with waiting | ends
        · cases waiting
        · exact ends
  | _ =>
      rw [List.append_nil] at tiles ⊢
      exact ⟨planned, tiles, inv.stored, inv.reported⟩

/-- The stored anchor, once the run is through. -/
def EndsAnchored (s : RunState) : Prop :=
  s.run.nextBlock = s.run.options.toBlock + 1 →
    s.database.lastCompleted s.run.options.lane = some s.run.options.toBlock

/-- The last chunk of a run leaves its anchor. -/
theorem Advance.endsAnchored {viem : Viem} {input : RunInput} {s : RunState}
    {r : RunState × List BlockRange} (step : Advance viem input s r)
    (truthful : input.Truthful) (anchored : EndsAnchored s) : EndsAnchored r.1 := by
  cases step with
  | fetched dropped index answer =>
      cases dropped with
      | true => exact anchored
      | false => exact anchored
  | committed answers head rest fetched blocks anchor counters counters' runs outcome asked _ _
      _ read commit =>
      subst asked
      intro last
      -- it is the chunk that ends the request, and that one is anchored
      have final : fetched.range.toBlock = s.run.options.toBlock := by
        change fetched.range.toBlock + 1 = s.run.options.toBlock + 1 at last
        omega
      obtain ⟨block, rfl⟩ := Option.isSome_iff_exists.mp (readAnchor_isSome read final)
      have number := readAnchor_number truthful read block rfl
      have stored := persistChunk_checkpoint commit
      show ((persistChunk _ _ _ _ _).database.checkpoint _ _).bind _ = _
      apply Eq.trans (congrArg (Option.bind · CheckpointRow.lastCompletedBlock) stored)
      show some block.number = some s.run.options.toBlock
      rw [number, final]
  | _ => exact anchored

/-! ## The result -/

theorem planned_loopStart {options : IngestLogsOptions} (finalizedHead : ℤ) {db : Database}
    (unfinished :
      resumeBlock options (db.checkpoint options.chainId options.scope) ≤ options.toBlock) :
    (loopStart options finalizedHead db).run.Planned where
  bounded := le_trans unfinished (by simp [loopStart, IngestRun.start])
  sound := fun _ mem => nomatch mem
  batch := ⟨_, rfl, le_trans unfinished (by simp [loopStart, IngestRun.start])⟩

/-- The state in which the loop takes over satisfies the invariant. -/
theorem runInvariant_loopStart {options : IngestLogsOptions} (finalizedHead : ℤ) {db : Database}
    (unfinished :
      resumeBlock options (db.checkpoint options.chainId options.scope) ≤ options.toBlock) :
    RunInvariant (resumeBlock options (db.checkpoint options.chainId options.scope))
      (loopStart options finalizedHead db) [] where
  planned := planned_loopStart finalizedHead unfinished
  tiles := rfl
  stored := fun nonempty => absurd rfl nonempty
  reported := fun _ returned => nomatch returned

/-- Where a loop is at the end of a schedule: it has kept its options, and its
invariant holds. -/
theorem loop_spec (viem : Viem) {options : IngestLogsOptions} (finalizedHead : ℤ)
    {db : Database} (schedule : List RunInput)
    (unfinished :
      resumeBlock options (db.checkpoint options.chainId options.scope) ≤ options.toBlock) :
    ∃ s committed,
      Machine.run (advance viem) schedule (loopStart options finalizedHead db) = (s, committed) ∧
      s.run.options = options ∧
      RunInvariant (resumeBlock options (db.checkpoint options.chainId options.scope)) s
        committed :=
  ⟨_, _, rfl, options_run viem schedule _,
    Machine.run_invariant (RunInvariant _)
      (fun input s _ inv => (advance_spec viem input s).runInvariant inv) schedule
      (runInvariant_loopStart finalizedHead unfinished)⟩

/-- The anchor at the end of a schedule. -/
theorem endsAnchored_run (viem : Viem) {options : IngestLogsOptions} (finalizedHead : ℤ)
    {db : Database} {schedule : List RunInput} (truthful : ∀ input ∈ schedule, input.Truthful)
    (unfinished :
      resumeBlock options (db.checkpoint options.chainId options.scope) ≤ options.toBlock) :
    EndsAnchored
      (Machine.run (advance viem) schedule (loopStart options finalizedHead db)).1 := by
  refine Machine.run_invariant_along (fun s _ => EndsAnchored s)
    (fun input s _ truthful => (advance_spec viem input s).endsAnchored truthful)
    schedule (Machine.along_of_forall truthful) fun last => ?_
  -- there is something left to do at the start
  change resumeBlock options (db.checkpoint options.chainId options.scope) = options.toBlock + 1
    at last
  omega

/-- **The ranges of one run tile its request.**  From any database and under any
schedule — so also after each single commit of a longer one — the committed
ranges follow each other from the resume point, are disjoint, stay inside the request, and end
right before the block the run reports; the stored resume point is the block
after the last of them; and a completed run has ended at the end of its request,
with the anchor there if the block provider is truthful. -/
theorem ingestLogs_tiling (viem : Viem) (options : IngestLogsOptions) (answers : StartAnswers)
    (schedule : List RunInput) (db : Database) :
    let result := ingestLogs viem options answers schedule db
    ∃ stop,
      RangeTiles (max options.fromBlock
        ((db.nextBlock options.chainId options.scope).getD options.fromBlock))
        result.committed stop ∧
      (result.committed.Pairwise fun earlier later => earlier.toBlock < later.fromBlock) ∧
      (∀ range ∈ result.committed, range.toBlock ≤ options.toBlock) ∧
      (∀ last ∈ result.committed.getLast?,
        result.database.nextBlock options.chainId options.scope = some (last.toBlock + 1)) ∧
      ∀ progress, result.outcome = .returned progress →
        progress.nextBlock = stop ∧
        (progress.status = .completed →
          stop = options.toBlock + 1 ∧ result.committed ≠ [] ∧
          ((∀ input ∈ schedule, input.Truthful) →
            result.database.lastCompleted options.lane = some options.toBlock)) := by
  intro result
  have resume := resumeBlock_eq_max options (db.checkpoint options.chainId options.scope)
  rw [← Database.nextBlock] at resume
  rw [← resume]
  rcases ingestLogs_spec viem options answers schedule db with ⟨error, eq⟩ |
    ⟨progress, eq, status, -, nextBlock, -⟩ | ⟨finalizedHead, unfinished, -, eq⟩
  · rw [show result = _ from eq]
    exact ⟨_, rfl, .nil, by simp, by simp, fun _ returned => nomatch returned⟩
  · rw [show result = _ from eq]
    refine ⟨_, rfl, .nil, by simp, by simp, ?_⟩
    rintro _ ⟨⟩
    refine ⟨nextBlock, fun completed => ?_⟩
    rw [status] at completed
    cases completed
  · rw [show result = _ from eq]
    obtain ⟨s, committed, ran, same, inv⟩ := loop_spec viem finalizedHead schedule unfinished
    have anchored : (∀ input ∈ schedule, input.Truthful) → EndsAnchored _ :=
      fun truthful => endsAnchored_run viem finalizedHead truthful unfinished
    rw [ran] at anchored ⊢
    simp only [IngestResult.ofLoop]
    have bounded := inv.planned.bounded
    have through := inv.reported
    have stored := inv.stored
    unfold EndsAnchored at anchored
    simp only [same] at bounded through stored anchored
    refine ⟨s.run.nextBlock, inv.tiles, inv.tiles.pairwise, fun range mem => ?_,
      fun last mem => ?_, fun progress returned => ⟨(through progress returned).1,
        fun status => ?_⟩⟩
    · have inside := inv.tiles.bounds_of_mem mem
      omega
    · have nonempty : committed ≠ [] := by
        rintro rfl
        simp at mem
      rw [stored nonempty, inv.tiles.hi_getLast mem]
    · have finished := (through progress returned).2 (.inl status)
      have stop : s.run.nextBlock = options.toBlock + 1 := by omega
      refine ⟨stop, ?_, fun truthful => anchored truthful stop⟩
      rintro rfl
      have tiles := inv.tiles
      rw [RangeTiles, tiles_nil] at tiles
      omega

/-- Of two chunks that are fetched ahead the provider cuts the second in half; what is
left of the request is planned anew. -/
def halvedSchedule : List RunInput :=
  let fetch (index : ℕ) (answer : Except JsError (List Log)) : RunInput :=
    .fetchLogs false index ⟨false, fun _ _ => answer⟩
  [.plan samplePlan, fetch 0 (.ok []), fetch 1 (.error ⟨"block range too large"⟩),
    fetch 1 (.ok []), .chunk sampleChunk, .chunk sampleChunk, .plan samplePlan,
    fetch 0 (.ok []), .chunk sampleChunk, .plan samplePlan]

theorem truthful_halvedSchedule : ∀ input ∈ halvedSchedule, input.Truthful := by
  have truthful : sampleChunk.Truthful := by
    rintro number block ⟨⟩
    rfl
  intro input mem
  simp only [halvedSchedule, List.mem_cons, List.not_mem_nil, or_false] at mem
  rcases mem with rfl | rfl | rfl | rfl | rfl | rfl | rfl | rfl | rfl | rfl
  all_goals first | exact truthful | trivial

/-- The run is completed, with its anchor at the end of the request. -/
theorem ingestLogs_tiling_halved :
    let result := ingestLogs sampleViem (sampleOptions 0 99 50) (sampleStart 200) halvedSchedule
      .empty
    result.committed = [⟨0, 49⟩, ⟨50, 74⟩, ⟨75, 99⟩] ∧
      (∃ progress, result.outcome = .returned progress ∧ progress.status = .completed) ∧
      result.database.lastCompleted (sampleOptions 0 99 50).lane = some 99 := by
  intro result
  have returned : result.outcome = .returned
      ⟨some 0, .completed, DEFAULT_INDEXER_SCOPE, 0, 99, 100, 200, 25,
        ⟨3, 100, 0, 0, 0, 0, 0, 0, 1⟩⟩ := by
    decide +kernel
  obtain ⟨stop, -, -, -, -, ends⟩ :=
    ingestLogs_tiling sampleViem (sampleOptions 0 99 50) (sampleStart 200) halvedSchedule .empty
  exact ⟨by decide +kernel, ⟨_, returned, rfl⟩,
    ((ends _ returned).2 rfl).2.2 truthful_halvedSchedule⟩

end UsdpIndexer
