import UsdpIndexer.Indexer.PersistChunk
import UsdpIndexer.Library.Batches

/-!
# Fetching logs and blocks

The retry loops of `indexer/service.ts`.  A loop that asks a provider again and
again need not end, so a request is `Attempted`: still waiting, returned, or
thrown.

* `fetchLogsAttempt` is one turn of the loop of `fetchLogsWithPolicy`.  The
  fetches of a batch run side by side, so the state of each is a value of its
  own, a `LogFetch`.
* `fetchBlockWithPolicy` and `fetchBlockBatchWithPolicy` run through the answers
  the provider gives to one request.

`LogFetch.Sound` is what every later proof needs: a fetch that has returned
holds the provider's answer for a range that starts where the plan starts and
does not reach beyond it.
-/

namespace UsdpIndexer

/-- Where a request with retries stands. -/
inductive Attempted (A : Type)
  | waiting
  | returned (value : A)
  | threw (error : JsError)
deriving DecidableEq

/-- The error a request has thrown. -/
def Attempted.failure {A : Type} : Attempted A → Option JsError
  | .threw error => some error
  | _ => none

/-! ## Logs -/

/-- What `fetchLogsWithPolicy` returns. -/
structure FetchedLogs where
  range : BlockRange
  logs : List Log
  chunkSize : ℤ

/-- One call of `fetchLogsWithPolicy`: its arguments and local variables. -/
structure LogFetch where
  planned : BlockRange
  chunkSize : ℤ
  attempt : ℤ
  outcome : Attempted FetchedLogs

/-- A fetch that has got no answer. -/
def LogFetch.start (planned : BlockRange) (initialChunkSize : ℤ) : LogFetch :=
  ⟨planned, initialChunkSize, 0, .waiting⟩

/-- What one turn of the loop meets: the abort signal, and the client. -/
structure LogAnswer where
  aborted : Bool
  getLogs : List String → BlockRange → Except JsError (List Log)

/-- The parameters the loop does not change. -/
structure RetryPolicy where
  maxRetries : ℤ
  retryRateLimitsIndefinitely : Bool

/-- One turn of the loop of `fetchLogsWithPolicy`. -/
def fetchLogsAttempt (addresses : List String) (policy : RetryPolicy) (answer : LogAnswer)
    (fetch : LogFetch) (counters : IngestionCounters) : LogFetch × IngestionCounters :=
  match fetch.outcome with
  | .returned _ | .threw _ => (fetch, counters)
  | .waiting =>
      if answer.aborted then ({ fetch with outcome := .threw ⟨"Indexer interrupted"⟩ }, counters)
      else
        match planBlockRange fetch.planned.fromBlock fetch.planned.toBlock fetch.chunkSize with
        | .error error => ({ fetch with outcome := .threw error }, counters)
        | .ok range =>
            match answer.getLogs addresses range with
            | .ok logs =>
                ({ fetch with outcome := .returned ⟨range, logs, fetch.chunkSize⟩ }, counters)
            | .error error =>
                if isDailyRequestQuotaError error then
                  ({ fetch with outcome := .threw error }, counters)
                else
                  let errorClass := classifyRpcError error
                  if errorClass = .range ∧ fetch.chunkSize > 1 then
                    let chunkSize :=
                      match providerRangeLimit error with
                      | some advertisedLimit => min advertisedLimit (fetch.chunkSize - 1)
                      | none => reduceChunkSize fetch.chunkSize
                    ({ fetch with chunkSize, attempt := 0 },
                      { counters with chunkReductions := counters.chunkReductions + 1 })
                  else if shouldRetryRpcError errorClass fetch.attempt policy.maxRetries
                      policy.retryRateLimitsIndefinitely then
                    ({ fetch with attempt := fetch.attempt + 1 },
                      { counters with rpcRetries := counters.rpcRetries + 1 })
                  else ({ fetch with outcome := .threw error }, counters)

/-- Whether the answer of a provider to a query, for a range and its logs, is as
`P` says. -/
def LogAnswer.Meets (addresses : List String) (P : BlockRange → List Log → Prop)
    (answer : LogAnswer) : Prop :=
  ∀ range logs, answer.getLogs addresses range = .ok logs → P range logs

/-- What holds of a fetch as long as its provider's answers are as `P` says. -/
structure LogFetch.Sound (P : BlockRange → List Log → Prop) (fetch : LogFetch) : Prop where
  chunkSize_pos : 1 ≤ fetch.chunkSize
  returned : ∀ fetched, fetch.outcome = .returned fetched →
    1 ≤ fetched.chunkSize ∧ P fetched.range fetched.logs ∧
      fetched.range.fromBlock = fetch.planned.fromBlock ∧
      fetched.range.fromBlock ≤ fetched.range.toBlock ∧
      fetched.range.toBlock ≤ fetch.planned.toBlock

theorem LogFetch.sound_start {P : BlockRange → List Log → Prop} {planned : BlockRange}
    {chunkSize : ℤ} (positive : 1 ≤ chunkSize) : (LogFetch.start planned chunkSize).Sound P :=
  ⟨positive, fun _ returned => nomatch returned⟩

/-- A fetch never changes what it was asked for. -/
theorem fetchLogsAttempt_planned (addresses : List String) (policy : RetryPolicy)
    (answer : LogAnswer) (fetch : LogFetch) (counters : IngestionCounters) :
    (fetchLogsAttempt addresses policy answer fetch counters).1.planned = fetch.planned := by
  unfold fetchLogsAttempt
  split
  · rfl
  · rfl
  · split
    · rfl
    · split
      · rfl
      · split
        · rfl
        · simp only
          split
          · rfl
          · split
            · rfl
            · split <;> rfl

/-- **One turn keeps a fetch sound.** -/
theorem LogFetch.Sound.attempt {P : BlockRange → List Log → Prop} {addresses : List String}
    {policy : RetryPolicy} {answer : LogAnswer} {fetch : LogFetch}
    (sound : fetch.Sound P) (meets : answer.Meets addresses P) (counters : IngestionCounters) :
    (fetchLogsAttempt addresses policy answer fetch counters).1.Sound P := by
  have positive := sound.chunkSize_pos
  unfold fetchLogsAttempt
  split
  · exact sound
  · exact sound
  · rename_i waiting
    split
    · exact ⟨positive, fun _ returned => nomatch returned⟩
    · split
      · exact ⟨positive, fun _ returned => nomatch returned⟩
      · rename_i range planned
        obtain ⟨-, nonempty, starts, ends⟩ := planBlockRange_eq_ok.mp planned
        split
        · rename_i logs fetched
          refine ⟨positive, fun result returned => ?_⟩
          cases returned
          exact ⟨positive, meets range logs fetched, starts, by simp only; omega,
            by simp only; omega⟩
        · rename_i error _
          split
          · exact ⟨positive, fun _ returned => nomatch returned⟩
          · simp only
            split
            · -- the shrunk chunk size stays positive, by either rule
              rename_i shrinks
              refine ⟨?_, fun _ returned => by simp [waiting] at returned⟩
              have large : 1 < fetch.chunkSize := shrinks.2
              simp only
              split
              · rename_i limit advertised
                exact le_min (providerRangeLimit_pos advertised) (by omega)
              · exact (reduceChunkSize_bounds shrinks.2).1
            · split
              · exact ⟨positive, fun _ returned => by simp [waiting] at returned⟩
              · exact ⟨positive, fun _ returned => nomatch returned⟩

/-! ## Blocks -/

/-- The loop `fetchBlockWithPolicy` and `fetchBlockBatchWithPolicy` share: try
until an answer is good or its error is not to be retried.  The number counts
the retries. -/
def retryWithPolicy {A : Type} (maxRetries : ℤ) :
    ℤ → List (Except JsError A) → Attempted A × ℕ
  | _, [] => (.waiting, 0)
  | _, .ok value :: _ => (.returned value, 0)
  | attempt, .error error :: answers =>
      if shouldRetryRpcError (classifyRpcError error) attempt maxRetries false then
        let rest := retryWithPolicy maxRetries (attempt + 1) answers
        (rest.1, rest.2 + 1)
      else (.threw error, 0)

/-- A block is asked for up to nine times. -/
def fetchBlockWithPolicy (answers : List (Except JsError RpcBlock)) : Attempted StoredBlock × ℕ :=
  retryWithPolicy 8 0 (answers.map (· >>= asStoredBlock))

/-- One row of the answer to a batch of `eth_getBlockByNumber`; an error may
come without a message. -/
structure RpcBatchResponse where
  id : Option ℤ
  result : Option RpcBlock
  error : Option (Option String)

/-- The payload of an HTTP answer: a list of rows, or a single one. -/
inductive BatchPayload
  | rows (rows : List RpcBatchResponse)
  | single (row : RpcBatchResponse)

/-- What the endpoint answers to a batch. -/
structure BatchAnswer where
  ok : Bool
  status : ℕ
  payload : BatchPayload

/-- The block of a batch answer at one position of the request. -/
def readBatchRow (rows : List RpcBatchResponse) (expectedNumber : ℤ) (index : ℕ) :
    Except JsError StoredBlock :=
  -- `new Map` keeps the last row of an id
  match rows.reverse.find? fun row => row.id = some (index + 1 : ℤ) with
  | none => .error ⟨"Block batch RPC returned an incomplete block"⟩
  | some row =>
      match row.error with
      | some message => .error ⟨message.getD "Block batch RPC failed"⟩
      | none =>
          match row.result with
          | some ⟨some number, some hash, parentHash, timestamp⟩ =>
              if hash = "" then .error ⟨"Block batch RPC returned an incomplete block"⟩
              else if number ≠ expectedNumber then
                .error ⟨s!"Block batch RPC returned {number} for requested block {expectedNumber}"⟩
              else .ok ⟨number, hash, parentHash, timestamp⟩
          | _ => .error ⟨"Block batch RPC returned an incomplete block"⟩

/-- The body of the `try` of `fetchBlockBatchWithPolicy`. -/
def readBatch (blockNumbers : List ℤ) (answer : BatchAnswer) : Except JsError (List StoredBlock) :=
  match answer.payload with
  | .single row =>
      match row.error.bind id with
      | some message =>
          .error ⟨if message = "" then s!"Block batch RPC returned HTTP {answer.status}"
            else message⟩
      | none => .error ⟨s!"Block batch RPC returned HTTP {answer.status}"⟩
  | .rows rows =>
      if ¬ answer.ok then .error ⟨s!"Block batch RPC returned HTTP {answer.status}"⟩
      else blockNumbers.zipIdx.mapM fun expected => readBatchRow rows expected.1 expected.2

/-- A batch is asked for up to nine times. -/
def fetchBlockBatchWithPolicy (blockNumbers : List ℤ)
    (answers : List (Except JsError BatchAnswer)) : Attempted (List StoredBlock) × ℕ :=
  retryWithPolicy 8 0 (answers.map (· >>= readBatch blockNumbers))

/-- All results of a list of requests, if all have returned. -/
def allReturned {R : Type} : List (Attempted R) → Attempted (List R)
  | [] => .returned []
  | .returned value :: results =>
      match allReturned results with
      | .returned values => .returned (value :: values)
      | other => other
  | _ :: _ => .waiting

/-- `mapWithConcurrency`, from what its workers' calls came to and the order in
which they completed: the first to throw rejects the whole. -/
def mapWithConcurrency {R : Type} (completions : List ℕ) (results : List (Attempted R)) :
    Attempted (List R) :=
  match completions.findSome? fun index => results[index]?.bind Attempted.failure with
  | some error => .threw error
  | none => allReturned results

/-- What the block provider answers while the blocks of a chunk are fetched. -/
structure BlockAnswers where
  block : ℤ → List (Except JsError RpcBlock)
  batch : List ℤ → List (Except JsError BatchAnswer)
  completions : List ℕ

/-- The results of the batches in one list. -/
def Attempted.flatten {A : Type} : Attempted (List (List A)) → Attempted (List A)
  | .waiting => .waiting
  | .returned values => .returned values.flatten
  | .threw error => .threw error

/-- The blocks are asked for in batches; the retries of all batches are counted. -/
def fetchBlocksBatched (blockNumbers : List ℤ) (batchSize : ℕ) (answers : BlockAnswers) :
    Attempted (List StoredBlock) × ℕ :=
  let results := (Batches.batchesOf batchSize blockNumbers).map fun batch =>
    fetchBlockBatchWithPolicy batch (answers.batch batch)
  ((mapWithConcurrency answers.completions (results.map Prod.fst)).flatten,
    (results.map Prod.snd).sum)

/-- The blocks of a chunk, batched or one by one, and the retries it took. -/
def fetchBlocks (blockFetchBatchSize : ℕ) (blockNumbers : List ℤ) (answers : BlockAnswers) :
    Attempted (List StoredBlock) × ℕ :=
  if blockFetchBatchSize > 1 then fetchBlocksBatched blockNumbers blockFetchBatchSize answers
  else
    let results := blockNumbers.map fun number => fetchBlockWithPolicy (answers.block number)
    (mapWithConcurrency answers.completions (results.map Prod.fst), (results.map Prod.snd).sum)

/-- The distinct block numbers of the logs, in order of first appearance. -/
def logBlockNumbers (logs : List Log) : List ℤ :=
  KeyedTable.insertNew id [] (logs.filterMap (·.blockNumber))

end UsdpIndexer
