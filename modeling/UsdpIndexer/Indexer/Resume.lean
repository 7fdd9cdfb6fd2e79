import UsdpIndexer.Indexer.RunTiling

/-!
# What a sequence of runs has covered

A run resumes at the greater of its `fromBlock` and the stored `next_block`.
One number stands for a set of covered ranges, and it stands for all of them
only as long as no run has started above it: blocks between the stored number
and a later start are skipped, and no later run comes back to them.  A run may
therefore report success — `completed`, or `noop` without a look at the coverage —
over a range that has gaps.

`HighWater` states what the number does stand for: below it, exactly the blocks
that no run has skipped are covered.  `coverageGaps_of_success` is the
consequence for a run that reports success.
-/

namespace UsdpIndexer

open IntegerCover

/-! ## What one run adds -/

/-- No coverage row is an empty range. -/
def Database.CoverageValid (db : Database) : Prop :=
  ∀ row ∈ db.coverage, row.fromBlock ≤ row.toBlock

/-- What a loop that started on `db` has added to it. -/
structure LoopEffect (db : Database) (lane : Lane) (s : RunState) (committed : List BlockRange) :
    Prop where
  lane_eq : s.run.options.lane = lane
  valid : db.CoverageValid → s.database.CoverageValid
  covered : ∀ block,
    s.database.CoveredFor lane block ↔ db.CoveredFor lane block ∨ Covered committed block
  untouched : committed = [] → s.database.resumePoint lane = db.resumePoint lane

theorem Advance.loopEffect {viem : Viem} {input : RunInput} {s : RunState}
    {r : RunState × List BlockRange} {db : Database} {lane : Lane} {committed : List BlockRange}
    (step : Advance viem input s r) (effect : LoopEffect db lane s committed) :
    LoopEffect db lane r.1 (committed ++ r.2) := by
  have lane_eq : r.1.run.options.lane = lane := by rw [step.options_eq, effect.lane_eq]
  cases step with
  | idle => simpa using effect
  | fetched dropped index answer =>
      rw [List.append_nil]
      cases dropped <;> exact { effect with lane_eq := lane_eq }
  | committed answers head rest fetched blocks anchor counters counters' runs outcome _ _ _ _ _
      commit =>
      obtain ⟨logs, -, nonempty, -, written⟩ := persistChunk_committed commit
      obtain ⟨chunkLane, valid, covered, -⟩ := effect
      refine ⟨lane_eq, fun before => ?_, fun block => ?_, fun none => by simp at none⟩
      · show ∀ row ∈ (persistChunk _ _ _ _ _).database.coverage, _
        rw [written]
        exact coverage_valid_writeChunk viem logs nonempty (valid before)
      · show Covered ((persistChunk _ _ _ _ _).database.coverageRanges _ _) block ↔ _
        rw [written, covered_writeChunk, covered_append, ← or_assoc, ← covered block]
        subst chunkLane
        simp only [covered_cons, not_covered_nil, or_false]
        exact or_congr Iff.rfl (and_iff_right ⟨rfl, rfl⟩)
  | _ => simpa using { effect with lane_eq := lane_eq }

theorem LoopEffect.start (options : IngestLogsOptions) (finalizedHead : ℤ) (db : Database) :
    LoopEffect db options.lane (loopStart options finalizedHead db) [] where
  lane_eq := rfl
  valid := id
  covered := fun block => by
    simp [Database.CoveredFor, Database.coverageRanges, loopStart, insertRun]
  untouched := fun _ => rfl

/-- One call of `ingestLogs`, with everything it meets. -/
structure IngestCall where
  options : IngestLogsOptions
  answers : StartAnswers
  schedule : List RunInput

/-- What comes of the call. -/
def IngestCall.run (viem : Viem) (call : IngestCall) (db : Database) : IngestResult :=
  ingestLogs viem call.options call.answers call.schedule db

/-- The block from which a call resumes. -/
def IngestCall.resume (call : IngestCall) (db : Database) : ℤ :=
  max call.options.fromBlock ((db.resumePoint call.options.lane).getD call.options.fromBlock)

/-- **What one call does to its lane.**  It covers the blocks from its resume
point up to where it stopped, and leaves the stored number there; a call that
commits nothing changes nothing. -/
theorem IngestCall.run_effect (viem : Viem) (call : IngestCall) (db : Database) :
    let result := call.run viem db
    ∃ stop, call.resume db ≤ stop ∧
      (db.CoverageValid → result.database.CoverageValid) ∧
      (∀ block, result.database.CoveredFor call.options.lane block ↔
        db.CoveredFor call.options.lane block ∨ call.resume db ≤ block ∧ block < stop) ∧
      (result.committed = [] → stop = call.resume db ∧
        result.database.resumePoint call.options.lane = db.resumePoint call.options.lane) ∧
      (result.committed ≠ [] →
        result.database.resumePoint call.options.lane = some stop) := by
  intro result
  have resume : call.resume db
      = resumeBlock call.options (db.checkpoint call.options.chainId call.options.scope) :=
    (resumeBlock_eq_max call.options _).symm
  rcases ingestLogs_spec viem call.options call.answers call.schedule db with ⟨error, eq⟩ |
    ⟨progress, eq, -⟩ | ⟨finalizedHead, unfinished, -, eq⟩
  · rw [show result = _ from eq]
    exact ⟨_, le_rfl, id, fun block => (or_iff_left (by omega)).symm, fun _ => ⟨rfl, rfl⟩,
      by simp⟩
  · rw [show result = _ from eq]
    exact ⟨_, le_rfl, id, fun block => (or_iff_left (by omega)).symm, fun _ => ⟨rfl, rfl⟩,
      by simp⟩
  · rw [show result = _ from eq]
    obtain ⟨s, committed, ran, same, inv⟩ :=
      loop_spec viem finalizedHead call.schedule unfinished
    have effect := Machine.run_invariant (LoopEffect db call.options.lane)
      (fun input s _ effect => (advance_spec viem input s).loopEffect effect) call.schedule
      (.start call.options finalizedHead db)
    rw [ran] at effect ⊢
    simp only [IngestResult.ofLoop]
    rw [← resume] at inv
    have stored := inv.stored
    rw [same] at stored
    refine ⟨s.run.nextBlock, inv.tiles.le, effect.valid, fun block => ?_, fun none => ?_, stored⟩
    · rw [effect.covered block, Covered, inv.tiles.covers_iff]
    · subst none
      exact ⟨inv.tiles, effect.untouched rfl⟩

/-! ## Sequences of calls -/

/-- The database after one call after the other. -/
def ingestAll (viem : Viem) (calls : List IngestCall) (db : Database) : Database :=
  calls.foldl (fun db call => (call.run viem db).database) db

/-- A call that commits something skips the blocks between the stored resume point,
if there is one, and its own start. -/
def IngestCall.Skips (viem : Viem) (call : IngestCall) (db : Database) (block : ℤ) : Prop :=
  (call.run viem db).committed ≠ [] ∧
    (∀ next ∈ db.resumePoint call.options.lane, next ≤ block) ∧ block < call.options.fromBlock

/-- Some call of the sequence skips the block. -/
def Skipped (viem : Viem) : List IngestCall → Database → ℤ → Prop
  | [], _, _ => False
  | call :: calls, db, block =>
      call.Skips viem db block ∨ Skipped viem calls (call.run viem db).database block

/-- What the stored resume point stands for, when `S` are the blocks skipped so far:
the covered blocks are those below it that were not skipped. -/
structure HighWater (lane : Lane) (db : Database) (S : ℤ → Prop) : Prop where
  valid : db.CoverageValid
  covered : ∀ block,
    db.CoveredFor lane block ↔ (∃ next ∈ db.resumePoint lane, block < next) ∧ ¬ S block
  below : ∀ block, S block → ∃ next ∈ db.resumePoint lane, block < next

theorem HighWater.empty (lane : Lane) : HighWater lane .empty fun _ => False where
  valid := fun _ mem => nomatch mem
  covered := fun block => by
    simp [Database.CoveredFor, Database.coverageRanges, Database.empty, Database.resumePoint,
      Database.nextBlock, Database.checkpoint, KeyedTable.lookup]
  below := fun _ skipped => skipped.elim

/-- **One call keeps the meaning of the resume point**, up to what it skips. -/
theorem HighWater.call (viem : Viem) {call : IngestCall} {db : Database} {S : ℤ → Prop}
    (high : HighWater call.options.lane db S) :
    HighWater call.options.lane (call.run viem db).database
      fun block => S block ∨ call.Skips viem db block := by
  obtain ⟨stop, le, valid, covered, untouched, moved⟩ := call.run_effect viem db
  by_cases none : (call.run viem db).committed = []
  · -- a call that commits nothing skips nothing
    obtain ⟨rfl, same⟩ := untouched none
    have noSkip (block : ℤ) : ¬ call.Skips viem db block := fun skips => skips.1 none
    refine ⟨valid high.valid, fun block => ?_, fun block skipped => ?_⟩
    · rw [covered, same, high.covered]
      simp only [noSkip, or_false]
      exact or_iff_left (by omega)
    · rw [same]
      exact high.below block (skipped.resolve_right (noSkip block))
  · have point := moved none
    unfold IngestCall.resume at le covered
    refine ⟨valid high.valid, fun block => ?_, fun block skipped => ?_⟩
    · have below := high.below block
      rw [covered, high.covered, point]
      unfold IngestCall.Skips
      cases stored : db.resumePoint call.options.lane with
      | none =>
          -- the first commit of the lane: all blocks before it are skipped
          simp only [stored, Option.getD_none, max_self, Option.mem_def, reduceCtorEq, false_and,
            exists_false, imp_false] at le below ⊢
          simp [none, below]
          omega
      | some next =>
          -- skipped are the blocks from the old resume point to the start of the call
          simp only [stored, Option.getD_some, Option.mem_def, Option.some.injEq,
            exists_eq_left'] at le below ⊢
          by_cases skipped : S block
          · have := below skipped
            simp [skipped]
            omega
          · simp [skipped, none]
            omega
    · rw [point]
      refine ⟨stop, rfl, ?_⟩
      rcases skipped with before | ⟨-, -, skips⟩
      · obtain ⟨next, stored, lt⟩ := high.below block before
        rw [Option.mem_def] at stored
        rw [stored, Option.getD_some] at le
        omega
      · omega

/-- The resume point after a sequence of calls on one lane. -/
theorem HighWater.ingestAll (viem : Viem) {lane : Lane} (calls : List IngestCall) :
    ∀ {db : Database} {S : ℤ → Prop}, HighWater lane db S →
      (∀ call ∈ calls, call.options.lane = lane) →
        HighWater lane (ingestAll viem calls db)
          fun block => S block ∨ Skipped viem calls db block := by
  induction calls with
  | nil =>
      intro db S high _
      simpa [Skipped, UsdpIndexer.ingestAll] using high
  | cons call calls ih =>
      intro db S high onLane
      obtain rfl := onLane call List.mem_cons_self
      have next := ih (high.call viem)
        fun other mem => onLane other (List.mem_cons_of_mem _ mem)
      show HighWater _ (UsdpIndexer.ingestAll viem calls _) _
      simpa only [Skipped, or_assoc] using next

/-- A call that reports success has left the resume point of its lane behind its
range. -/
theorem IngestCall.resumePoint_of_success {viem : Viem} {call : IngestCall} {db : Database}
    {progress : IngestionProgress} (returned : (call.run viem db).outcome = .returned progress)
    (success : progress.status.Successful) :
    call.options.fromBlock ≤ call.options.toBlock ∧
      ∃ next ∈ (call.run viem db).database.resumePoint call.options.lane,
        call.options.toBlock < next := by
  rcases ingestLogs_spec viem call.options call.answers call.schedule db with ⟨error, eq⟩ |
    ⟨noop, eq, -, ordered, nextBlock, finished⟩ | ⟨finalizedHead, unfinished, ordered, eq⟩
  · rw [show call.run viem db = _ from eq] at returned
    cases returned
  · rw [show call.run viem db = _ from eq]
    refine ⟨ordered, ?_⟩
    rw [nextBlock, resumeBlock_eq_max, ← Database.nextBlock] at finished
    show ∃ next ∈ db.nextBlock call.options.chainId call.options.scope, _
    cases stored : db.nextBlock call.options.chainId call.options.scope with
    | none =>
        rw [stored, Option.getD_none, max_self] at finished
        omega
    | some next =>
        rw [stored, Option.getD_some] at finished
        exact ⟨next, rfl, by omega⟩
  · rw [show call.run viem db = _ from eq] at returned ⊢
    refine ⟨ordered, ?_⟩
    obtain ⟨s, committed, ran, same, inv⟩ :=
      loop_spec viem finalizedHead call.schedule unfinished
    rw [ran] at returned ⊢
    have behind := (inv.reported progress returned).2 success
    have stored := inv.stored
    rw [same] at behind stored
    refine ⟨s.run.nextBlock, stored ?_, behind⟩
    -- the request was not empty, so something has been committed
    rintro rfl
    have nothing := inv.tiles
    rw [RangeTiles, tiles_nil] at nothing
    omega

/-- **What a reported success is worth.**  After any calls on one lane, starting
from an empty store, a call that returns `completed` or `noop` leaves no gap over
its range exactly if no earlier call of the sequence has skipped one of its
blocks. -/
theorem coverageGaps_of_success (viem : Viem) (calls : List IngestCall) (call : IngestCall)
    (onLane : ∀ other ∈ calls, other.options.lane = call.options.lane)
    (progress : IngestionProgress)
    (returned : (call.run viem (ingestAll viem calls .empty)).outcome = .returned progress)
    (success : progress.status.Successful) :
    coverageGaps ((call.run viem (ingestAll viem calls .empty)).database.coverageRanges
        call.options.chainId call.options.scope) call.options.fromBlock call.options.toBlock
      = .ok []
    ↔ ∀ block, call.options.fromBlock ≤ block → block ≤ call.options.toBlock →
        ¬ Skipped viem calls .empty block := by
  have high := ((HighWater.empty call.options.lane).ingestAll viem calls onLane).call viem
  obtain ⟨ordered, next, stored, behind⟩ := IngestCall.resumePoint_of_success returned success
  rw [coverageGaps_eq_nil_iff ?_ ordered]
  · refine forall_congr' fun block => forall_congr' fun lower => forall_congr' fun upper => ?_
    refine (high.covered block).trans ?_
    have inside : ∃ next ∈ (call.run viem (ingestAll viem calls .empty)).database.resumePoint
        call.options.lane, block < next := ⟨next, stored, by omega⟩
    -- the call itself skips only blocks before its range
    have noSkip : ¬ call.Skips viem (ingestAll viem calls .empty) block := fun skips => by
      have := skips.2.2
      omega
    simp only [inside, true_and, noSkip, or_false, false_or]
  · intro range mem
    obtain ⟨row, hrow, rfl⟩ := List.mem_map.mp mem
    exact high.valid row (List.mem_filter.mp hrow).1

/-- A call over one chunk in the sample environment. -/
def sampleCall (fromBlock toBlock : ℤ) : IngestCall where
  options := sampleOptions fromBlock toBlock 50
  answers := sampleStart 200
  schedule := sampleLoop fun _ _ => .ok []

/-- Two calls that follow each other leave no gap over the second range. -/
theorem coverageGaps_of_success_following :
    coverageGaps ((((sampleCall 150 199).run sampleViem
        (ingestAll sampleViem [sampleCall 100 149] .empty)).database).coverageRanges
          HYPEREVM_CHAIN_ID DEFAULT_INDEXER_SCOPE) 150 199 = .ok [] := by
  refine (coverageGaps_of_success sampleViem [sampleCall 100 149] (sampleCall 150 199)
    (by decide +kernel)
    ⟨some 1, .completed, DEFAULT_INDEXER_SCOPE, 150, 199, 200, 200, 50,
      { blankCounters with chunks := 1, blocksCovered := 50 }⟩
    (by decide +kernel) (.inl rfl)).mpr ?_
  rintro block lower - (⟨-, -, skips⟩ | none)
  · change (150 : ℤ) ≤ block at lower
    change block < (100 : ℤ) at skips
    omega
  · exact none

/-- **A `noop` over a gap.**  After a run over `[100, 149]`, a call for `[0, 140]`
has nothing to do, and leaves `[0, 99]` uncovered. -/
theorem noop_leaves_gap :
    let db := ingestAll sampleViem [sampleCall 100 149] .empty
    let result := (sampleCall 0 140).run sampleViem db
    result.outcome = .returned ⟨none, .noop, DEFAULT_INDEXER_SCOPE, 0, 140, 150, 200, 50,
      blankCounters⟩ ∧
    coverageGaps (result.database.coverageRanges HYPEREVM_CHAIN_ID DEFAULT_INDEXER_SCOPE) 0 140
      = .ok [⟨0, 99⟩] := by
  decide +kernel

end UsdpIndexer
