import UsdpIndexer.Indexer.Fetch
import UsdpIndexer.Library.FailingFold
import UsdpIndexer.Library.WorkerPool

/-!
# Block headers in batches

`fetchBlocksBatched` with the workers of `mapWithConcurrency` as they run: a pool over the
batches, whose calls come to what `fetchBlockBatchWithPolicy` makes of the answers a batch
gets.  The caller pairs headers and block numbers by position alone, so what matters is that
the i-th header is that of the i-th number (`fetchBlocksBatched_identity`).

Where the result of each call is given, the pool comes to what the `mapWithConcurrency` of a
run of the indexer comes to (`mapWithConcurrency_of_pool`).
-/

namespace UsdpIndexer

open FailingFold WorkerPool

/-! ## One batch -/

/-- A row that is accepted has the number that was asked for. -/
theorem number_of_readBatchRow {rows : List RpcBatchResponse} {expectedNumber : ℤ} {index : ℕ}
    {block : StoredBlock} (read : readBatchRow rows expectedNumber index = .ok block) :
    block.number = expectedNumber := by
  unfold readBatchRow at read
  split at read
  · cases read
  · split at read
    · cases read
    · split at read
      · split at read
        · cases read
        · split at read
          · cases read
          · rename_i same
            cases read
            exact not_not.mp same
      · cases read

/-- An answer that is accepted has a header for every number, in order. -/
theorem numbers_of_readBatch {blockNumbers : List ℤ} {answer : BatchAnswer}
    {blocks : List StoredBlock} (read : readBatch blockNumbers answer = .ok blocks) :
    blocks.map (·.number) = blockNumbers := by
  unfold readBatch at read
  split at read
  · split at read <;> cases read
  · split at read
    · cases read
    · have numbers := map_of_mapM_eq_ok read (g := StoredBlock.number) (h := Prod.fst)
        fun expected block accepted => number_of_readBatchRow accepted
      rw [numbers, List.zipIdx_map_fst]

/-- What a retried request returns is one of its answers. -/
theorem mem_of_retryWithPolicy_returned {A : Type} {maxRetries : ℤ}
    {answers : List (Except JsError A)} {value : A} :
    ∀ {attempt : ℤ}, (retryWithPolicy maxRetries attempt answers).1 = .returned value →
      .ok value ∈ answers := by
  induction answers with
  | nil => intro attempt returned; cases returned
  | cons answer answers ih =>
      intro attempt returned
      cases answer with
      | ok accepted =>
          cases returned
          exact List.mem_cons_self
      | error error =>
          rw [retryWithPolicy] at returned
          split at returned
          · exact List.mem_cons_of_mem _ (ih returned)
          · cases returned

/-- **A batch has the numbers it was asked for**, however often it was asked. -/
theorem numbers_of_fetchBlockBatchWithPolicy {blockNumbers : List ℤ}
    {answers : List (Except JsError BatchAnswer)} {blocks : List StoredBlock}
    (returned : (fetchBlockBatchWithPolicy blockNumbers answers).1 = .returned blocks) :
    blocks.map (·.number) = blockNumbers := by
  obtain ⟨answer, -, read⟩ := List.mem_map.mp (mem_of_retryWithPolicy_returned returned)
  obtain ⟨payload, -, read⟩ := bind_eq_ok.mp read
  exact numbers_of_readBatch read

/-! ## The workers -/

/-- What a request has come to, if it has come to something. -/
def Attempted.settled {A : Type} : Attempted A → Option (Except JsError A)
  | .waiting => none
  | .returned value => some (.ok value)
  | .threw error => some (.error error)

/-- The length of `Array.from` in `mapWithConcurrency`. -/
def workerCount (concurrency : ℤ) (count : ℕ) : ℕ := min (max 1 concurrency).toNat count

/-- The call on a batch, from the answers to its requests. -/
def batchCall (batches : List (List ℤ)) (index : ℕ) (answers : List (Except JsError BatchAnswer)) :
    Option (Except JsError (List StoredBlock)) :=
  batches[index]?.bind fun batch => (fetchBlockBatchWithPolicy batch answers).1.settled

/-- The pool of `fetchBlocksBatched` after some completions, and the indices it has handed to
its workers. -/
def fetchBlocksBatchedRun (blockNumbers : List ℤ) (batchSize : ℕ) (batchConcurrency : ℤ)
    (schedule : List (ℕ × List (Except JsError BatchAnswer))) :
    Pool (List StoredBlock) JsError × List (ℕ × ℕ) :=
  let batches := Batches.batchesOf batchSize blockNumbers
  let first := start batches.length (workerCount batchConcurrency batches.length)
  let run := Machine.run (step (batchCall batches)) schedule first.1
  (run.1, first.2 ++ run.2)

/-- What `fetchBlocksBatched` throws or returns; `flat` skips slots that are not filled. -/
def fetchBlocksBatchedOutcome (pool : Pool (List StoredBlock) JsError) :
    Option (Except JsError (List StoredBlock)) :=
  pool.outcome.map fun outcome => outcome.map fun slots => (slots.filterMap id).flatten

/-- There is a worker where there is something to do. -/
theorem workerCount_pos (concurrency : ℤ) {count : ℕ} (positive : 0 < count) :
    0 < workerCount concurrency count := by
  rw [workerCount]
  omega

/-- **Headers keep their identity.**  In whatever order the workers' calls complete and
whatever the answers are, each batch is handed to one worker only, in order; and what is
returned is a header for each number, the i-th for the i-th, after every batch has been handed
out.  It comes to something once no worker waits for an answer. -/
theorem fetchBlocksBatched_identity (blockNumbers : List ℤ) {batchSize : ℕ} (large : 2 ≤ batchSize)
    (batchConcurrency : ℤ) (schedule : List (ℕ × List (Except JsError BatchAnswer))) :
    let run := fetchBlocksBatchedRun blockNumbers batchSize batchConcurrency schedule
    (∃ handed ≤ (Batches.batchesOf batchSize blockNumbers).length,
      run.2.map Prod.snd = List.range handed) ∧
    ((∀ worker ∈ run.1.workers, worker.isBusy = false) →
      ∃ result, fetchBlocksBatchedOutcome run.1 = some result) ∧
    ∀ blocks, fetchBlocksBatchedOutcome run.1 = some (.ok blocks) →
      blocks.length = blockNumbers.length ∧
      (∀ i : ℕ, blocks[i]?.map (·.number) = blockNumbers[i]?) ∧
      run.2.map Prod.snd = List.range (Batches.batchesOf batchSize blockNumbers).length := by
  intro run
  set batches := Batches.batchesOf batchSize blockNumbers with hbatches
  have consistent : Consistent (batchCall batches) batches.length run.1 run.2 :=
    run_consistent (batchCall batches) batches.length
      (workerCount batchConcurrency batches.length) schedule
  have staff : run.1.workers.length = workerCount batchConcurrency batches.length :=
    length_workers_run (batchCall batches) batches.length _ schedule
  refine ⟨⟨run.1.nextIndex, consistent.cursor, consistent.handed⟩, fun idle => ?_,
    fun blocks returned => ?_⟩
  · obtain ⟨result, ended⟩ := Pool.exists_outcome idle
    exact ⟨_, Option.map_eq_some_iff.mpr ⟨result, ended, rfl⟩⟩
  obtain ⟨outcome, done, returned⟩ := Option.map_eq_some_iff.mp returned
  obtain ⟨slots, rfl, rfl⟩ := map_eq_ok.mp returned
  obtain ⟨ended, values, rfl, length, called⟩ := consistent.results_of_done
    (fun positive => staff ▸ workerCount_pos batchConcurrency positive) done
  have numbers : values.map (fun blocks => blocks.map (·.number)) = batches := by
    refine List.ext_getElem? fun i => ?_
    rw [List.getElem?_map]
    cases found : values[i]? with
    | none =>
        rw [List.getElem?_eq_none_iff] at found
        rw [Option.map_none, List.getElem?_eq_none (length ▸ found)]
    | some value =>
        obtain ⟨answers, comes⟩ := called i value found
        obtain ⟨batch, asked, settled⟩ := Option.bind_eq_some_iff.mp comes
        rw [asked, Option.map_some, Option.some.injEq]
        cases result : (fetchBlockBatchWithPolicy batch answers).1 with
        | waiting => rw [result] at settled; cases settled
        | threw error => rw [result] at settled; cases settled
        | returned blocks =>
            rw [result] at settled
            cases settled
            exact numbers_of_fetchBlockBatchWithPolicy result
  have all : ((values.map some).filterMap id).flatten.map StoredBlock.number = blockNumbers := by
    rw [List.filterMap_map, Function.id_comp, List.filterMap_some, List.map_flatten]
    rw [numbers, hbatches, Batches.flatten_batchesOf (by omega)]
  refine ⟨?_, fun i => ?_, ?_⟩
  · rw [← all, List.length_map]
  · rw [← List.getElem?_map, all]
  · rw [consistent.handed, ended]

/-- The second worker is through first; the rows of the first batch come in the wrong order,
with one twice and one that nobody asked for. -/
def shuffledSchedule : List (ℕ × List (Except JsError BatchAnswer)) :=
  let header (number : ℤ) : RpcBlock := ⟨some number, some "0xa", "0xb", 1000 + number⟩
  [(1, [.error ⟨"fetch failed"⟩, .ok ⟨true, 200, .rows [⟨some 1, some (header 12), none⟩]⟩]),
    (0, [.ok ⟨true, 200, .rows [⟨some 2, some (header 9), none⟩, ⟨some 7, some (header 3), none⟩,
      ⟨some 1, none, none⟩, ⟨some 1, some (header 7), none⟩]⟩])]

theorem fetchBlocksBatched_identity_shuffled :
    ∃ blocks, fetchBlocksBatchedOutcome (fetchBlocksBatchedRun [7, 9, 12] 2 5 shuffledSchedule).1
        = some (.ok blocks) ∧
      blocks = [⟨7, "0xa", "0xb", 1007⟩, ⟨9, "0xa", "0xb", 1009⟩, ⟨12, "0xa", "0xb", 1012⟩] ∧
      blocks[2]?.map (·.number) = some 12 := by
  have known : ((fetchBlocksBatchedOutcome
      (fetchBlocksBatchedRun [7, 9, 12] 2 5 shuffledSchedule).1).bind Except.toOption)
        = some [⟨7, "0xa", "0xb", 1007⟩, ⟨9, "0xa", "0xb", 1009⟩, ⟨12, "0xa", "0xb", 1012⟩] := by
    decide +kernel
  obtain ⟨outcome, returned, same⟩ := Option.bind_eq_some_iff.mp known
  cases outcome with
  | error e => cases same
  | ok blocks =>
      have identity := (@fetchBlocksBatched_identity [7, 9, 12] 2 (by decide) 5
        shuffledSchedule).2.2 blocks returned
      exact ⟨blocks, returned, Option.some.inj same, identity.2.1 2⟩

/-! ## The two models -/

theorem getElem?_of_settled {R : Type} {results : List (Attempted R)} {index : ℕ}
    {outcome : Except JsError R}
    (settled : results[index]?.bind Attempted.settled = some outcome) :
    ∃ result, results[index]? = some result ∧ result.settled = some outcome :=
  Option.bind_eq_some_iff.mp settled

theorem allReturned_map {R : Type} (values : List R) :
    allReturned (values.map Attempted.returned) = .returned values := by
  induction values with
  | nil => rfl
  | cons value values ih =>
      rw [List.map_cons, allReturned, ih]

/-- **The pool refines the function.**  Where each call comes to a given result, what the pool
throws or returns is what `mapWithConcurrency` makes of the results in some order of
completions. -/
theorem mapWithConcurrency_of_pool {R : Type} (results : List (Attempted R)) (concurrency : ℤ)
    (workers : List ℕ) :
    let call (index : ℕ) (_ : Unit) := results[index]?.bind Attempted.settled
    let pool := (Machine.run (step call) (workers.map (·, ()))
      (start results.length (workerCount concurrency results.length)).1).1
    (∀ slots, pool.outcome = some (.ok slots) → ∃ values, slots = values.map some ∧
      mapWithConcurrency [] results = .returned values) ∧
    ∀ e, pool.outcome = some (.error e) →
      ∃ completions, mapWithConcurrency completions results = .threw e := by
  intro call pool
  have consistent := run_consistent call results.length (workerCount concurrency results.length)
    (workers.map (·, ()))
  constructor
  · intro slots done
    have staff := length_workers_run call results.length
      (workerCount concurrency results.length) (workers.map (·, ()))
    obtain ⟨-, values, rfl, length, called⟩ := consistent.results_of_done
      (fun positive => by rw [staff]; exact workerCount_pos concurrency positive) done
    have same : results = values.map Attempted.returned := by
      refine List.ext_getElem? fun i => ?_
      rw [List.getElem?_map]
      cases found : values[i]? with
      | none =>
          rw [List.getElem?_eq_none_iff] at found
          rw [Option.map_none, List.getElem?_eq_none (length ▸ found)]
      | some value =>
          obtain ⟨_, comes⟩ := called i value found
          obtain ⟨result, stored, settled⟩ := getElem?_of_settled comes
          cases result with
          | waiting => cases settled
          | threw error => cases settled
          | returned value' =>
              cases settled
              exact stored
    refine ⟨values, rfl, ?_⟩
    rw [same]
    exact allReturned_map values
  · intro e done
    have rejected : pool.rejection = some e := by
      unfold Pool.outcome at done
      split at done
      · rename_i rejection
        cases done
        exact rejection
      · split at done <;> cases done
    obtain ⟨index, _, comes⟩ := consistent.rejected e rejected
    obtain ⟨result, stored, settled⟩ := getElem?_of_settled comes
    cases result with
    | waiting => cases settled
    | returned value => cases settled
    | threw error =>
        cases settled
        refine ⟨[index], ?_⟩
        rw [mapWithConcurrency, List.findSome?_cons, stored]
        rfl

end UsdpIndexer
