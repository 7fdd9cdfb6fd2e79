import Mathlib.Tactic.Ring
import UsdpIndexer.Indexer.Fetch
import UsdpIndexer.Library.Machine

/-!
# How long a fetch takes

The loop of `fetchLogsWithPolicy` counts its retries from zero again whenever its chunk
shrinks.  It ends nevertheless: either way of shrinking makes the chunk smaller and leaves at
least one block, so there are no more shrinkings than blocks in the first chunk, and at each
size no more requests than the first one and the retries.
-/

namespace UsdpIndexer

/-- The range that a turn of the loop requests, if it comes to a request. -/
def LogFetch.request (fetch : LogFetch) (answer : LogAnswer) : Option BlockRange :=
  match fetch.outcome with
  | .returned _ | .threw _ => none
  | .waiting =>
      if answer.aborted then none
      else (planBlockRange fetch.planned.fromBlock fetch.planned.toBlock fetch.chunkSize).toOption

/-- The loop as a machine that shows its requests. -/
def fetchLogsTurn (addresses : List String) (policy : RetryPolicy) (answer : LogAnswer)
    (state : LogFetch × IngestionCounters) : (LogFetch × IngestionCounters) × List BlockRange :=
  (fetchLogsAttempt addresses policy answer state.1 state.2, (state.1.request answer).toList)

/-- What a turn can come to. -/
inductive LogFetch.Turn (addresses : List String) (maxRetries : ℤ) (answer : LogAnswer)
    (fetch : LogFetch) : LogFetch → Prop
  | settled : fetch.outcome ≠ .waiting → Turn addresses maxRetries answer fetch fetch
  | thrown (error : JsError) :
      Turn addresses maxRetries answer fetch { fetch with outcome := .threw error }
  | returned {range : BlockRange} {logs : List Log} :
      planBlockRange fetch.planned.fromBlock fetch.planned.toBlock fetch.chunkSize = .ok range →
      answer.getLogs addresses range = .ok logs →
      Turn addresses maxRetries answer fetch
        { fetch with outcome := .returned ⟨range, logs, fetch.chunkSize⟩ }
  | shrunk {chunkSize : ℤ} : 1 ≤ chunkSize → chunkSize < fetch.chunkSize →
      fetch.outcome = .waiting →
      Turn addresses maxRetries answer fetch { fetch with chunkSize := chunkSize, attempt := 0 }
  | retried : fetch.attempt < maxRetries → fetch.outcome = .waiting →
      Turn addresses maxRetries answer fetch { fetch with attempt := fetch.attempt + 1 }

/-- **One turn**, where rate limits are not retried without end. -/
theorem fetchLogsAttempt_turn (addresses : List String) (maxRetries : ℤ) (answer : LogAnswer)
    (fetch : LogFetch) (counters : IngestionCounters) :
    fetch.Turn addresses maxRetries answer
      (fetchLogsAttempt addresses ⟨maxRetries, false⟩ answer fetch counters).1 := by
  unfold fetchLogsAttempt
  split
  · rename_i returned
    exact .settled (by simp [returned])
  · rename_i threw
    exact .settled (by simp [threw])
  · rename_i waiting
    split
    · exact .thrown _
    · split
      · exact .thrown _
      · rename_i range planned
        split
        · rename_i logs fetched
          exact .returned planned fetched
        · rename_i error _
          split
          · exact .thrown _
          · simp only
            split
            · rename_i shrinks
              split
              · rename_i limit advertised
                exact .shrunk (le_min (providerRangeLimit_pos advertised) (by omega))
                  ((min_le_right _ _).trans_lt (by omega)) waiting
              · obtain ⟨positive, smaller⟩ := reduceChunkSize_bounds shrinks.2
                exact .shrunk positive smaller waiting
            · split
              · rename_i retries
                refine .retried ?_ waiting
                simp only [shouldRetryRpcError, Bool.false_eq_true, and_false, if_false,
                  decide_eq_true_eq] at retries
                exact retries.2
              · exact .thrown _

/-- How many requests a fetch can make yet. -/
def LogFetch.budget (maxRetries : ℕ) (fetch : LogFetch) : ℕ :=
  match fetch.outcome with
  | .waiting =>
      (fetch.chunkSize.toNat - 1) * (maxRetries + 1) + (maxRetries - fetch.attempt).toNat + 1
  | .returned _ | .threw _ => 0

theorem LogFetch.budget_of_waiting {fetch : LogFetch} (waiting : fetch.outcome = .waiting)
    (maxRetries : ℕ) :
    fetch.budget maxRetries = (fetch.chunkSize.toNat - 1) * (maxRetries + 1)
      + (maxRetries - fetch.attempt).toNat + 1 := by
  rw [LogFetch.budget, waiting]

theorem LogFetch.budget_eq_zero_iff {fetch : LogFetch} {maxRetries : ℕ} :
    fetch.budget maxRetries = 0 ↔ fetch.outcome ≠ .waiting := by
  unfold LogFetch.budget
  split
  · rename_i waiting
    simp [waiting]
  · rename_i returned
    simp [returned]
  · rename_i threw
    simp [threw]

/-- Every turn of a waiting fetch costs a request, whatever the turn comes to. -/
theorem LogFetch.Turn.budget_le {addresses : List String} {maxRetries : ℕ} {answer : LogAnswer}
    {fetch fetch' : LogFetch} (turn : fetch.Turn addresses maxRetries answer fetch') :
    fetch'.budget maxRetries ≤ fetch.budget maxRetries - 1 := by
  cases turn with
  | settled settled =>
      rw [budget_eq_zero_iff.mpr settled]
  | thrown error => exact Nat.zero_le _
  | returned planned fetched => exact Nat.zero_le _
  | @shrunk chunkSize positive smaller waiting =>
      rw [budget_of_waiting waiting, budget_of_waiting (by exact waiting)]
      -- a smaller chunk pays for starting the retries anew
      have pays : (chunkSize.toNat - 1 + 1) * (maxRetries + 1)
          ≤ (fetch.chunkSize.toNat - 1) * (maxRetries + 1) :=
        Nat.mul_le_mul_right _ (by omega)
      rw [Nat.add_mul] at pays
      simp only
      omega
  | retried retries waiting =>
      rw [budget_of_waiting waiting, budget_of_waiting (by exact waiting)]
      simp only
      omega

theorem LogFetch.request_of_settled {fetch : LogFetch} (settled : fetch.outcome ≠ .waiting)
    (answer : LogAnswer) : fetch.request answer = none := by
  unfold LogFetch.request
  split
  · rfl
  · rfl
  · rename_i waiting
    exact absurd waiting settled

/-- What a fetch that was asked for a range can have come to. -/
structure LogFetch.Within (addresses : List String) (answers : List LogAnswer)
    (planned : BlockRange) (initialChunkSize : ℤ) (fetch : LogFetch) : Prop where
  asked : fetch.planned = planned
  positive : 1 ≤ fetch.chunkSize
  le : fetch.chunkSize ≤ initialChunkSize
  returned : ∀ fetched, fetch.outcome = .returned fetched →
    1 ≤ fetched.chunkSize ∧ fetched.chunkSize ≤ initialChunkSize ∧
      planBlockRange planned.fromBlock planned.toBlock fetched.chunkSize = .ok fetched.range ∧
      ∃ answer ∈ answers, answer.getLogs addresses fetched.range = .ok fetched.logs

theorem LogFetch.within_start (addresses : List String) (answers : List LogAnswer)
    (planned : BlockRange) {initialChunkSize : ℤ} (positive : 1 ≤ initialChunkSize) :
    (LogFetch.start planned initialChunkSize).Within addresses answers planned
      initialChunkSize where
  asked := rfl
  positive := positive
  le := le_rfl
  returned := fun _ returned => nomatch returned

/-- **A turn stays within.** -/
theorem LogFetch.Within.turn {addresses : List String} {answers : List LogAnswer}
    {planned : BlockRange} {initialChunkSize maxRetries : ℤ} {answer : LogAnswer}
    {fetch fetch' : LogFetch} (within : fetch.Within addresses answers planned initialChunkSize)
    (mem : answer ∈ answers) (turn : fetch.Turn addresses maxRetries answer fetch') :
    fetch'.Within addresses answers planned initialChunkSize := by
  obtain ⟨asked, positive, le, returned⟩ := within
  cases turn with
  | settled settled => exact ⟨asked, positive, le, returned⟩
  | thrown error => exact ⟨asked, positive, le, fun _ returned => nomatch returned⟩
  | returned plans fetched =>
      refine ⟨asked, positive, le, ?_⟩
      rintro _ ⟨⟩
      rw [asked] at plans
      exact ⟨positive, le, plans, answer, mem, fetched⟩
  | shrunk atLeastOne smaller waiting =>
      exact ⟨asked, atLeastOne, smaller.le.trans le, returned⟩
  | retried retries waiting => exact ⟨asked, positive, le, returned⟩

/-- **A fetch ends, with progress.**  Whatever the provider answers, the loop makes no more
requests than blocks in its first chunk times one more than the retries; when that many turns
are taken it has thrown or returned; and what it returns are the provider's logs of a range
that starts where it was asked to and is as long as the chunk size that is returned allows. -/
theorem fetchLogsWithPolicy_ends (addresses : List String) (planned : BlockRange)
    {initialChunkSize : ℤ} (positive : 1 ≤ initialChunkSize) (maxRetries : ℕ)
    (answers : List LogAnswer) (counters : IngestionCounters) :
    let run := Machine.run (fetchLogsTurn addresses ⟨maxRetries, false⟩) answers
      (LogFetch.start planned initialChunkSize, counters)
    (run.2.length : ℤ) ≤ initialChunkSize * (maxRetries + 1) ∧
      (initialChunkSize * (maxRetries + 1) ≤ answers.length → run.1.1.outcome ≠ .waiting) ∧
      ∀ fetched, run.1.1.outcome = .returned fetched →
        fetched.range.fromBlock = planned.fromBlock ∧
        fetched.range.fromBlock ≤ fetched.range.toBlock ∧
        fetched.range.toBlock - fetched.range.fromBlock + 1
          = min fetched.chunkSize (planned.toBlock - planned.fromBlock + 1) ∧
        1 ≤ fetched.chunkSize ∧ fetched.chunkSize ≤ initialChunkSize ∧
        ∃ answer ∈ answers, answer.getLogs addresses fetched.range = .ok fetched.logs := by
  intro run
  have start : ((LogFetch.start planned initialChunkSize).budget maxRetries : ℤ)
      = initialChunkSize * (maxRetries + 1) := by
    obtain ⟨size, rfl⟩ := Int.le.dest positive
    rw [LogFetch.budget_of_waiting rfl]
    have whole : ((1 + (size : ℤ)).toNat - 1 : ℕ) = size := by omega
    have retries : ((maxRetries : ℤ) - 0).toNat = maxRetries := by omega
    simp only [LogFetch.start, whole, retries]
    push_cast
    ring
  have pays : ∀ answer (state : LogFetch × IngestionCounters),
      (fetchLogsTurn addresses ⟨maxRetries, false⟩ answer state).1.1.budget maxRetries
        ≤ state.1.budget maxRetries - 1 :=
    fun answer state => (fetchLogsAttempt_turn addresses maxRetries answer state.1 _).budget_le
  refine ⟨?_, fun enough => ?_, fun fetched returned => ?_⟩
  · rw [← start, Nat.cast_le]
    refine Machine.run_emits_le
      (fun state : LogFetch × IngestionCounters => state.1.budget maxRetries) ?_ answers _
    intro answer state
    have turn := pays answer state
    by_cases waiting : state.1.outcome = .waiting
    · have left := LogFetch.budget_of_waiting waiting maxRetries
      have one := Option.length_toList_le (o := state.1.request answer)
      simp only [fetchLogsTurn] at turn ⊢
      omega
    · simp only [fetchLogsTurn, LogFetch.request_of_settled waiting] at turn ⊢
      simp only [Option.toList_none, List.length_nil]
      omega
  · rw [← start, Nat.cast_le] at enough
    exact LogFetch.budget_eq_zero_iff.mp
      (Machine.run_budget_eq_zero
        (fun state : LogFetch × IngestionCounters => state.1.budget maxRetries) pays answers _
        enough)
  · have promised : Machine.Along (fetchLogsTurn addresses ⟨maxRetries, false⟩)
        (fun answer _ => answer ∈ answers) answers
        (LogFetch.start planned initialChunkSize, counters) :=
      Machine.along_of_forall fun _ mem => mem
    have within := Machine.run_invariant_along
      (fun (state : LogFetch × IngestionCounters) (_ : List BlockRange) =>
        state.1.Within addresses answers planned initialChunkSize)
      (fun answer state _ mem within =>
        within.turn mem (fetchLogsAttempt_turn addresses maxRetries answer state.1 _))
      answers promised (LogFetch.within_start addresses answers planned positive)
    obtain ⟨atLeastOne, le, plans, answered⟩ := within.returned fetched returned
    obtain ⟨-, ordered, first, last⟩ := planBlockRange_eq_ok.mp plans
    exact ⟨first, by omega, by omega, atLeastOne, le, answered⟩

/-- A provider that advertises its limit, is busy once, and then answers. -/
def shrinkingAnswers : List LogAnswer :=
  [⟨false, fun _ _ => .error ⟨"eth_getLogs is limited to a 5 block range"⟩⟩,
    ⟨false, fun _ _ => .error ⟨"429 Too Many Requests"⟩⟩, ⟨false, fun _ _ => .ok []⟩]

theorem fetchLogsWithPolicy_ends_shrinking :
    let run := Machine.run (fetchLogsTurn ["0x1"] ⟨(1 : ℕ), false⟩) shrinkingAnswers
      (LogFetch.start ⟨100, 130⟩ 10, blankCounters)
    run.2 = [⟨100, 109⟩, ⟨100, 104⟩, ⟨100, 104⟩] ∧ run.1.1.chunkSize = 5 ∧
      (run.2.length : ℤ) ≤ 10 * ((1 : ℕ) + 1) :=
  ⟨by decide +kernel, by decide +kernel,
    (@fetchLogsWithPolicy_ends ["0x1"] ⟨100, 130⟩ 10 (by decide) 1 shrinkingAnswers
      blankCounters).1⟩

end UsdpIndexer
