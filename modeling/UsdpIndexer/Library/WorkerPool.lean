import UsdpIndexer.Library.Machine

/-!
# Workers over a shared cursor

A list of inputs is worked through by several workers.  Each worker takes the index under the
shared cursor, advances the cursor, waits for the call on that input, stores the result under
the index and goes on; between two waits nothing else runs.  The whole is rejected by the first
call that fails, and otherwise done when every worker has found the cursor at the end.

* `Pool` is the state of the workers, `step` one completion, in whatever order they come; an
  event is an index that is handed to a worker.
* `Consistent` is the invariant.  Whatever the order, the indices are handed out one after the
  other, none twice, and a pool that is done holds a result of its own for every input
  (`run_consistent`, `Consistent.results_of_done`).
-/

namespace WorkerPool

universe u v w

variable {A : Type u} {R : Type v} {ε : Type w}

/-- A worker waits for a call, or has come to the end, or its call has failed. -/
inductive Worker (ε : Type w)
  | busy (index : ℕ)
  | finished
  | failed (error : ε)
deriving DecidableEq

/-- The cursor, the results so far, the workers, and the error that the whole is rejected with. -/
structure Pool (R : Type v) (ε : Type w) where
  nextIndex : ℕ
  results : List (Option R)
  workers : List (Worker ε)
  rejection : Option ε

/-- It waits for a call. -/
def Worker.isBusy : Worker ε → Bool
  | .busy _ => true
  | _ => false

/-- The index that a worker has just been handed. -/
def Worker.handed (worker : ℕ) : Worker ε → List (ℕ × ℕ)
  | .busy index => [(worker, index)]
  | _ => []

namespace Pool

/-- The head of a worker's loop: the index under the cursor, or the end. -/
def loopHead (pool : Pool R ε) : Worker ε × Pool R ε :=
  if pool.nextIndex < pool.results.length then
    (.busy pool.nextIndex, { pool with nextIndex := pool.nextIndex + 1 })
  else (.finished, pool)

/-- One more worker is started and runs up to its first call. -/
def spawn (pool : Pool R ε) : Pool R ε × List (ℕ × ℕ) :=
  let head := pool.loopHead
  ({ head.2 with workers := head.2.workers ++ [head.1] }, head.1.handed pool.workers.length)

/-- The call of a worker on an index comes to an outcome. -/
def complete (pool : Pool R ε) (worker index : ℕ) : Except ε R → Pool R ε × List (ℕ × ℕ)
  | .ok result =>
      let head := loopHead { pool with results := pool.results.set index (some result) }
      ({ head.2 with workers := head.2.workers.set worker head.1 }, head.1.handed worker)
  | .error error =>
      ({ pool with
          workers := pool.workers.set worker (.failed error)
          rejection := pool.rejection.or (some error) }, [])

/-- What the whole has come to, if it has come to something. -/
def outcome (pool : Pool R ε) : Option (Except ε (List (Option R))) :=
  match pool.rejection with
  | some error => some (.error error)
  | none => if pool.workers.any Worker.isBusy then none else some (.ok pool.results)

/-- There is an outcome once no worker waits any more. -/
theorem exists_outcome {pool : Pool R ε} (idle : ∀ worker ∈ pool.workers, worker.isBusy = false) :
    ∃ result, pool.outcome = some result := by
  have none : pool.workers.any Worker.isBusy = false :=
    List.any_eq_false.mpr fun worker mem busy => by
      rw [idle worker mem] at busy
      cases busy
  unfold outcome
  cases pool.rejection with
  | some error => exact ⟨_, rfl⟩
  | none => exact ⟨_, if_neg (Bool.eq_false_iff.mp none)⟩

end Pool

/-- The workers are started one after the other. -/
def start (count workers : ℕ) : Pool R ε × List (ℕ × ℕ) :=
  Machine.run (fun (_ : Unit) pool => pool.spawn) (List.replicate workers ())
    ⟨0, List.replicate count none, [], none⟩

/-- An answer for a worker.  `call index answer` is what the call on an input comes to, if it
comes to something. -/
def step (call : ℕ → A → Option (Except ε R)) (event : ℕ × A) (pool : Pool R ε) :
    Pool R ε × List (ℕ × ℕ) :=
  match pool.workers[event.1]? with
  | some (.busy index) =>
      match call index event.2 with
      | some outcome => pool.complete event.1 index outcome
      | none => (pool, [])
  | _ => (pool, [])

/-! ## The invariant -/

/-- What holds of a pool and of the indices that have been handed out. -/
structure Consistent (call : ℕ → A → Option (Except ε R)) (count : ℕ) (pool : Pool R ε)
    (handed : List (ℕ × ℕ)) : Prop where
  length : pool.results.length = count
  cursor : pool.nextIndex ≤ count
  handed : handed.map Prod.snd = List.range pool.nextIndex
  taken : pool.rejection = none → ∀ index < pool.nextIndex,
    (∃ result, pool.results[index]? = some (some result)) ∨ .busy index ∈ pool.workers
  finished : .finished ∈ pool.workers → pool.nextIndex = count
  failed : pool.rejection = none → ∀ error, .failed error ∉ pool.workers
  called : ∀ index result, pool.results[index]? = some (some result) →
    ∃ answer, call index answer = some (.ok result)
  rejected : ∀ error, pool.rejection = some error →
    ∃ index answer, call index answer = some (.error error)

variable {call : ℕ → A → Option (Except ε R)} {count : ℕ} {pool : Pool R ε}
  {handed : List (ℕ × ℕ)}

theorem consistent_empty (call : ℕ → A → Option (Except ε R)) (count : ℕ) :
    Consistent call count (⟨0, List.replicate count none, [], none⟩ : Pool R ε) [] where
  length := List.length_replicate
  cursor := Nat.zero_le _
  handed := rfl
  taken := fun _ _ before => absurd before (Nat.not_lt_zero _)
  finished := fun mem => absurd mem List.not_mem_nil
  failed := fun _ _ => List.not_mem_nil
  called := by
    intro index result found
    have := (List.mem_replicate.mp (List.mem_of_getElem? found)).2
    cases this
  rejected := fun _ rejected => nomatch rejected

/-- An element stays in a list where another one is replaced. -/
theorem mem_set_of_ne {α : Type*} {l : List α} {n : ℕ} {a b c : α} (mem : a ∈ l)
    (old : l[n]? = some b) (ne : a ≠ b) : a ∈ l.set n c := by
  obtain ⟨m, found⟩ := List.mem_iff_getElem?.mp mem
  refine List.mem_iff_getElem?.mpr ⟨m, ?_⟩
  rw [List.getElem?_set_ne, found]
  rintro rfl
  rw [old] at found
  exact ne (Option.some.inj found).symm

/-- **Starting a worker.** -/
theorem Consistent.spawn (consistent : Consistent call count pool handed) :
    Consistent call count pool.spawn.1 (handed ++ pool.spawn.2) := by
  obtain ⟨length, cursor, order, taken, finished, failed, called, rejected⟩ := consistent
  unfold Pool.spawn Pool.loopHead
  split
  · rename_i before
    refine ⟨length, by simp only; omega, ?_, ?_, ?_, ?_, called, rejected⟩
    · simp only [Worker.handed, List.map_append, order, List.map_cons, List.map_nil,
        List.range_succ]
    · intro unrejected index below
      rcases Nat.lt_succ_iff_lt_or_eq.mp below with earlier | rfl
      · exact (taken unrejected index earlier).imp_right (List.mem_append_left _)
      · exact .inr (List.mem_append_right _ List.mem_cons_self)
    · intro mem
      rcases List.mem_append.mp mem with old | new
      · have := finished old
        omega
      · simp at new
    · intro unrejected error mem
      rcases List.mem_append.mp mem with old | new
      · exact failed unrejected error old
      · simp at new
  · rename_i ended
    refine ⟨length, cursor, ?_, ?_, ?_, ?_, called, rejected⟩
    · simpa only [Worker.handed, List.append_nil] using order
    · intro unrejected index below
      exact (taken unrejected index below).imp_right (List.mem_append_left _)
    · intro _
      simp only
      omega
    · intro unrejected error mem
      rcases List.mem_append.mp mem with old | new
      · exact failed unrejected error old
      · simp at new

/-- What is stored is what was stored, and the new result. -/
theorem called_set {results : List (Option R)} {index : ℕ} {result : R} {answer : A}
    (called : ∀ i r, results[i]? = some (some r) → ∃ answer, call i answer = some (.ok r))
    (comes : call index answer = some (.ok result)) :
    ∀ i r, (results.set index (some result))[i]? = some (some r) →
      ∃ answer, call i answer = some (.ok r) := by
  intro i r found
  by_cases same : index = i
  · subst same
    obtain ⟨inside, found⟩ := List.getElem?_eq_some_iff.mp found
    rw [List.getElem_set_self, Option.some.injEq] at found
    rw [← found]
    exact ⟨answer, comes⟩
  · rw [List.getElem?_set_ne same] at found
    exact called i r found

/-- An index that has been taken is still waited for, or its result is stored now. -/
theorem taken_set {results : List (Option R)} {workers : List (Worker ε)} {worker index i : ℕ}
    (busy : workers[worker]? = some (.busy index)) (next : Worker ε) (result : R)
    (inside : i < results.length)
    (taken : (∃ r, results[i]? = some (some r)) ∨ .busy i ∈ workers) :
    (∃ r, (results.set index (some result))[i]? = some (some r)) ∨
      .busy i ∈ workers.set worker next := by
  by_cases same : index = i
  · subst same
    exact .inl ⟨result, List.getElem?_set_self inside⟩
  · rw [List.getElem?_set_ne same]
    refine taken.imp_right fun mem => mem_set_of_ne mem busy ?_
    rintro ⟨⟩
    exact same rfl

/-- **A call completes.** -/
theorem Consistent.complete (consistent : Consistent call count pool handed) {worker index : ℕ}
    (busy : pool.workers[worker]? = some (.busy index)) {answer : A} {outcome : Except ε R}
    (comes : call index answer = some outcome) :
    Consistent call count (pool.complete worker index outcome).1
      (handed ++ (pool.complete worker index outcome).2) := by
  obtain ⟨length, cursor, order, taken, finished, failed, called, rejected⟩ := consistent
  have inRange : worker < pool.workers.length := (List.getElem?_eq_some_iff.mp busy).1
  cases outcome with
  | error error =>
      have isRejected : pool.rejection.or (some error) ≠ none := by
        cases pool.rejection <;> simp
      refine ⟨length, cursor, by simpa only [Pool.complete, List.append_nil] using order,
        fun unrejected => absurd unrejected isRejected, ?_,
        fun unrejected => absurd unrejected isRejected, called, ?_⟩
      · intro mem
        rcases List.mem_or_eq_of_mem_set mem with old | new
        · exact finished old
        · cases new
      · intro error' found
        rcases Option.or_eq_some_iff.mp found with old | ⟨-, new⟩
        · exact rejected error' old
        · cases new
          exact ⟨index, answer, comes⟩
  | ok result =>
      unfold Pool.complete Pool.loopHead
      simp only [List.length_set]
      split
      · rename_i before
        refine ⟨by rw [List.length_set]; exact length, by simp only; omega, ?_, ?_, ?_, ?_,
          called_set called comes, rejected⟩
        · simp only [Worker.handed, List.map_append, order, List.map_cons, List.map_nil,
            List.range_succ]
        · intro unrejected i below
          rcases Nat.lt_succ_iff_lt_or_eq.mp below with earlier | rfl
          · exact taken_set busy _ result (by omega) (taken unrejected i earlier)
          · exact .inr (List.mem_set inRange _)
        · intro mem
          rcases List.mem_or_eq_of_mem_set mem with old | new
          · have := finished old
            omega
          · cases new
        · intro unrejected error mem
          rcases List.mem_or_eq_of_mem_set mem with old | new
          · exact failed unrejected error old
          · cases new
      · rename_i ended
        refine ⟨by rw [List.length_set]; exact length, cursor, ?_, ?_, ?_, ?_,
          called_set called comes, rejected⟩
        · simpa only [Worker.handed, List.append_nil] using order
        · intro unrejected i below
          exact taken_set busy _ result (by simp only at below; omega)
            (taken unrejected i below)
        · intro _
          simp only
          omega
        · intro unrejected error mem
          rcases List.mem_or_eq_of_mem_set mem with old | new
          · exact failed unrejected error old
          · cases new

theorem Consistent.step (event : ℕ × A) (consistent : Consistent call count pool handed) :
    Consistent call count (step call event pool).1 (handed ++ (step call event pool).2) := by
  unfold WorkerPool.step
  split
  · rename_i index busy
    split
    · rename_i outcome comes
      exact consistent.complete busy comes
    · simpa only [List.append_nil] using consistent
  · simpa only [List.append_nil] using consistent

theorem consistent_start (call : ℕ → A → Option (Except ε R)) (count workers : ℕ) :
    Consistent call count (start count workers : Pool R ε × List (ℕ × ℕ)).1
      (start count workers : Pool R ε × List (ℕ × ℕ)).2 :=
  Machine.run_invariant (Consistent call count) (fun _ _ _ consistent => consistent.spawn) _
    (consistent_empty call count)

/-- **Every order of completions** leaves a pool consistent. -/
theorem run_consistent (call : ℕ → A → Option (Except ε R)) (count workers : ℕ)
    (schedule : List (ℕ × A)) :
    Consistent call count (Machine.run (step call) schedule (start count workers).1).1
      ((start count workers : Pool R ε × List (ℕ × ℕ)).2
        ++ (Machine.run (step call) schedule (start count workers).1).2) :=
  Machine.run_invariant_from (Consistent call count) (fun event _ _ consistent =>
    consistent.step event) schedule (consistent_start call count workers)

/-! ## The workers -/

@[simp] theorem length_workers_spawn (pool : Pool R ε) :
    pool.spawn.1.workers.length = pool.workers.length + 1 := by
  unfold Pool.spawn Pool.loopHead
  split <;> simp

theorem length_workers_start (count workers : ℕ) :
    (start count workers : Pool R ε × List (ℕ × ℕ)).1.workers.length = workers := by
  have grows : ∀ (n : ℕ) (pool : Pool R ε),
      (Machine.run (fun (_ : Unit) pool => pool.spawn) (List.replicate n ()) pool).1.workers.length
        = pool.workers.length + n := by
    intro n
    induction n with
    | zero => intro pool; rfl
    | succ n ih =>
        intro pool
        rw [List.replicate_succ, Machine.run_cons, ih, length_workers_spawn]
        omega
  rw [start, grows, List.length_nil, Nat.zero_add]

@[simp] theorem length_workers_step (call : ℕ → A → Option (Except ε R)) (event : ℕ × A)
    (pool : Pool R ε) : (step call event pool).1.workers.length = pool.workers.length := by
  unfold step
  split
  · split
    · rename_i outcome _
      cases outcome with
      | error error => simp [Pool.complete]
      | ok result =>
          unfold Pool.complete Pool.loopHead
          simp only
          split <;> simp
    · rfl
  · rfl

theorem length_workers_run (call : ℕ → A → Option (Except ε R)) (count workers : ℕ)
    (schedule : List (ℕ × A)) :
    (Machine.run (step call) schedule (start count workers).1).1.workers.length = workers :=
  Machine.run_invariant (fun pool _ => pool.workers.length = workers)
    (fun event pool _ same => (length_workers_step call event pool).trans same) schedule
    (length_workers_start count workers)

/-! ## What the whole comes to -/

/-- Slots that are all filled. -/
theorem exists_eq_map_some {l : List (Option R)} (filled : ∀ slot ∈ l, ∃ value, slot = some value) :
    ∃ values : List R, l = values.map some := by
  induction l with
  | nil => exact ⟨[], rfl⟩
  | cons slot l ih =>
      obtain ⟨value, rfl⟩ := filled slot List.mem_cons_self
      obtain ⟨values, rfl⟩ := ih fun slot mem => filled slot (List.mem_cons_of_mem _ mem)
      exact ⟨value :: values, rfl⟩

/-- **A pool that is done has handed out every index and holds what the calls came to.** -/
theorem Consistent.results_of_done (consistent : Consistent call count pool handed)
    (staffed : 0 < count → 0 < pool.workers.length) {results : List (Option R)}
    (done : pool.outcome = some (.ok results)) :
    pool.nextIndex = count ∧ ∃ values : List R, results = values.map some ∧
      values.length = count ∧ ∀ index value, values[index]? = some value →
        ∃ answer, call index answer = some (.ok value) := by
  unfold Pool.outcome at done
  split at done
  · cases done
  · rename_i unrejected
    split at done
    · cases done
    · rename_i idle
      cases done
      have notBusy : ∀ index, Worker.busy index ∉ pool.workers := by
        intro index mem
        exact idle (List.any_eq_true.mpr ⟨_, mem, rfl⟩)
      -- the workers have not failed either, so they are finished
      have ended : pool.nextIndex = count := by
        rcases Nat.eq_zero_or_pos count with zero | positive
        · have := consistent.cursor
          omega
        · obtain ⟨worker, mem⟩ := List.exists_mem_of_length_pos (staffed positive)
          cases worker with
          | busy index => exact absurd mem (notBusy index)
          | finished => exact consistent.finished mem
          | failed error => exact absurd mem (consistent.failed unrejected error)
      have stored : ∀ index, index < count → ∃ value, pool.results[index]? = some (some value) :=
        fun index below => (consistent.taken unrejected index (ended ▸ below)).resolve_right
          (notBusy index)
      obtain ⟨values, same⟩ := exists_eq_map_some (l := pool.results) (by
        intro slot mem
        obtain ⟨index, found⟩ := List.mem_iff_getElem?.mp mem
        have below : index < count := consistent.length ▸ (List.getElem?_eq_some_iff.mp found).1
        obtain ⟨value, result⟩ := stored index below
        rw [found] at result
        exact ⟨value, Option.some.inj result⟩)
      refine ⟨ended, values, same, ?_, fun index value found => ?_⟩
      · rw [← consistent.length, same, List.length_map]
      · refine consistent.called index value ?_
        rw [same, List.getElem?_map, found]
        rfl

end WorkerPool
