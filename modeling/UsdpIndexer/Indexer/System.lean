import UsdpIndexer.Indexer.Ingest

/-!
# Several runs on one database

Nothing stops two processes from running `ingestLogs` at the same time: the
workers take an advisory lock, the command line does not.  `systemStep` starts
runs on one database and lets any of them take its next step, so that a schedule
is an interleaving of their chunk transactions.

Events name the run and its place in the store; a run's number is the number of
runs that were started before it.
-/

namespace UsdpIndexer

/-- The database, and every run that got past its prologue. -/
structure SystemState where
  database : Database
  runs : List IngestRun

/-- No row and no run. -/
def SystemState.empty : SystemState := ⟨Database.empty, []⟩

/-- A call is made, or one of the runs goes on. -/
inductive SystemInput
  | start (options : IngestLogsOptions) (answers : StartAnswers)
  | step (run : ℕ) (input : RunInput)

/-- A run has started or has committed a chunk. -/
inductive SystemEvent
  | started (run : ℕ) (lane : Lane)
  | committed (run : ℕ) (lane : Lane) (range : BlockRange)
deriving DecidableEq, Repr

/-- Start a run, or let one take a step. -/
def systemStep (viem : Viem) (input : SystemInput) (s : SystemState) :
    SystemState × List SystemEvent :=
  match input with
  | .start options answers =>
      match startIngest options answers s.database with
      | (.running run, db) => (⟨db, s.runs ++ [run]⟩, [.started s.runs.length options.lane])
      | (_, db) => ({ s with database := db }, [])
  | .step index input =>
      match s.runs[index]? with
      | none => (s, [])
      | some run =>
          let next := advance viem input ⟨s.database, run⟩
          (⟨next.1.database, s.runs.set index next.1.run⟩,
            next.2.map (.committed index run.options.lane ·))

/-- **What a step of the system can come to**: nothing, a new run, or a step of
one of the runs. -/
theorem systemStep_spec (viem : Viem) (input : SystemInput) (s : SystemState) :
    systemStep viem input s = (s, []) ∨
    (∃ options answers finalizedHead, input = .start options answers ∧
      resumeBlock options (s.database.checkpoint options.chainId options.scope)
        ≤ options.toBlock ∧
      systemStep viem input s
        = (⟨(loopStart options finalizedHead s.database).database,
            s.runs ++ [(loopStart options finalizedHead s.database).run]⟩,
          [.started s.runs.length options.lane])) ∨
    (∃ index runInput run next, input = .step index runInput ∧ s.runs[index]? = some run ∧
      Advance viem runInput ⟨s.database, run⟩ next ∧
      systemStep viem input s
        = (⟨next.1.database, s.runs.set index next.1.run⟩,
          next.2.map (.committed index run.options.lane ·))) := by
  cases input with
  | start options answers =>
      unfold systemStep
      rcases startIngest_spec options answers s.database with ⟨error, threw⟩ |
        ⟨progress, noop, -⟩ | ⟨finalizedHead, unfinished, -, -, running⟩
      · simp only [threw]
        exact .inl trivial
      · simp only [noop]
        exact .inl trivial
      · simp only [running]
        exact .inr (.inl ⟨options, answers, finalizedHead, rfl, unfinished, rfl⟩)
  | step index input =>
      unfold systemStep
      simp only
      split
      · exact .inl rfl
      · rename_i run found
        exact .inr (.inr ⟨index, input, run, _, rfl, found, advance_spec viem input _, rfl⟩)

/-! ## Positions -/

/-- Who is at a position after one run has moved. -/
theorem getElem?_set_run {runs : List IngestRun} {index i : ℕ} {run run' other : IngestRun}
    (found : runs[index]? = some run) (at_ : (runs.set index run')[i]? = some other) :
    (i = index ∧ other = run') ∨ (i ≠ index ∧ runs[i]? = some other) := by
  by_cases self : i = index
  · subst self
    rw [List.getElem?_set_self (List.getElem?_eq_some_iff.mp found).1, Option.some.injEq] at at_
    exact .inl ⟨rfl, at_.symm⟩
  · rw [List.getElem?_set_ne (Ne.symm self)] at at_
    exact .inr ⟨self, at_⟩

/-- Who is at a position after a run has started. -/
theorem getElem?_append_run {runs : List IngestRun} {i : ℕ} {run other : IngestRun}
    (at_ : (runs ++ [run])[i]? = some other) :
    runs[i]? = some other ∨ (i = runs.length ∧ other = run) := by
  by_cases old : i < runs.length
  · rw [List.getElem?_append_left old] at at_
    exact .inl at_
  · rw [List.getElem?_append_right (not_lt.mp old), List.getElem?_singleton] at at_
    split at at_
    · cases at_
      exact .inr ⟨by omega, rfl⟩
    · cases at_

end UsdpIndexer
