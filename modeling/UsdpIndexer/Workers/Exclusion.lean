import UsdpIndexer.Workers.Machine

/-!
# Who holds which lock

The table of the server and the local variables of the workers say the same, at any moment of
any interleaving, however often connections are lost and processes die: a key is locked exactly
if a worker has been given it and its connection is still there.  So no two workers hold one
key, a worker between its lock and its `finally` block holds its key for as long as its
connection lasts, and nobody is refused a key that no other worker holds.

What one step does to the locks is `Exchange`: the rows of the worker's own session go with its
variables, and those of the other sessions stay.
-/

namespace UsdpIndexer

open AdvisoryLocks

/-! ## One worker -/

/-- What the variables of a worker say about where it is. -/
structure Worker.Honest (worker : Worker) : Prop where
  locking : ∀ refusals, worker.phase = .locking refusals → worker.acquired = false
  inside : worker.phase.Inside → worker.job.lock = none ∨ worker.acquired = true

theorem Worker.honest_start (job : WorkerJob) (session : ℕ) : (Worker.start job session).Honest :=
  by
  unfold Worker.start
  cases lock : job.lock with
  | none => exact ⟨fun _ _ => rfl, fun _ => .inl lock⟩
  | some key => exact ⟨fun _ _ => rfl, fun inside => inside.elim⟩

/-- A worker that has just started holds nothing. -/
theorem Worker.held_start (job : WorkerJob) (session : ℕ) :
    (Worker.start job session).held = none :=
  if_neg fun held => Bool.false_ne_true held.1

theorem Worker.held_of_not_acquired {worker : Worker} (refused : worker.acquired = false) :
    worker.held = none :=
  if_neg fun held => by simp [refused] at held

theorem Worker.held_of_ended {worker : Worker} (ended : worker.phase = .ended) :
    worker.held = none :=
  if_neg fun held => by simpa [ended, WorkerPhase.Live] using held.2.2

theorem Worker.live_of_held {worker : Worker} {key : LockKey} (held : worker.held = some key) :
    worker.phase.Live := by
  unfold Worker.held at held
  split at held
  · rename_i holds
    exact holds.2.2
  · cases held

theorem Worker.lock_of_held {worker : Worker} {key : LockKey} (held : worker.held = some key) :
    worker.job.lock = some key := by
  unfold Worker.held at held
  split at held
  · exact held
  · cases held

/-- **A worker that is inside holds its lock**, unless it has none or its connection is gone. -/
theorem Worker.Honest.held_eq {worker : Worker} (honest : worker.Honest)
    (inside : worker.phase.Inside) (connected : worker.connected = true) :
    worker.held = worker.job.lock := by
  rcases honest.inside inside with none | acquired
  · unfold Worker.held
    split
    · rfl
    · exact none.symm
  · exact if_pos ⟨acquired, connected, inside.live⟩

/-! ## One step -/

/-- The table holds for the worker's session what the worker holds. -/
def WorkerState.Exact (s : WorkerState) : Prop :=
  ∀ key, s.locks.Holds s.worker.session key ↔ s.worker.held = some key

/-- **What a step of a worker does to the locks.** -/
structure Exchange (s next : WorkerState) : Prop where
  session : next.worker.session = s.worker.session
  job : next.worker.job = s.worker.job
  single : next.locks.Single
  honest : next.worker.Honest
  exact : next.Exact
  others : ∀ session key, session ≠ s.worker.session →
    (next.locks.Holds session key ↔ s.locks.Holds session key)

section Step

variable {s : WorkerState}

theorem Exchange.refl (single : s.locks.Single) (honest : s.worker.Honest) (exact : s.Exact) :
    Exchange s s :=
  ⟨rfl, rfl, single, honest, exact, fun _ _ _ => Iff.rfl⟩

/-- A step that leaves the locks alone and goes on to a place behind the lock. -/
theorem Exchange.goto (single : s.locks.Single) (honest : s.worker.Honest) (exact : s.Exact)
    (live : s.worker.phase.Live) (database : WholeDatabase) (phase : WorkerPhase)
    (live' : phase.Live) (notLocking : ∀ refusals, phase ≠ .locking refusals)
    (inside : phase.Inside → s.worker.phase.Inside) :
    Exchange s (WorkerState.goto { s with database } phase) where
  session := rfl
  job := rfl
  single := single
  honest := ⟨fun refusals locking => absurd locking (notLocking refusals),
    fun there => honest.inside (inside there)⟩
  exact := by
    intro key
    have same : ({ s.worker with phase } : Worker).held = s.worker.held := by
      simp only [Worker.held, live, live']
    exact (exact key).trans (by rw [← same]; rfl)
  others := fun _ _ _ => Iff.rfl

/-- The worker ends, and its session has given back what it held. -/
theorem Exchange.ended {locks : LockTable LockKey ℕ} (single : locks.Single)
    (none : ∀ key, ¬ locks.Holds s.worker.session key)
    (others : ∀ session key, session ≠ s.worker.session →
      (locks.Holds session key ↔ s.locks.Holds session key)) :
    Exchange s { s.goto .ended with locks } where
  session := rfl
  job := rfl
  single := single
  honest := ⟨fun _ locking => by simp [WorkerState.goto] at locking, False.elim⟩
  exact := by
    intro key
    rw [Worker.held_of_ended rfl]
    exact iff_of_false (none key) (by simp)
  others := others

theorem Exchange.endSession (single : s.locks.Single) :
    Exchange s { s.goto .ended with locks := s.locks.endSession s.worker.session } :=
  .ended (single.endSession _) (fun key held => (LockTable.holds_endSession.mp held).2 rfl)
    fun session key other => by rw [LockTable.holds_endSession, and_iff_left other]

/-- A worker that has not been given a lock holds nothing. -/
theorem WorkerState.Exact.not_holds (exact : s.Exact) (refused : s.worker.acquired = false)
    (key : LockKey) : ¬ s.locks.Holds s.worker.session key := by
  rw [exact key, Worker.held_of_not_acquired refused]
  simp

/-- The key has been refused, and the worker will ask again. -/
theorem Exchange.refused (single : s.locks.Single) (exact : s.Exact)
    (refused : s.worker.acquired = false) (refusals : ℕ) :
    Exchange s (s.goto (.locking refusals)) where
  session := rfl
  job := rfl
  single := single
  honest := ⟨fun _ _ => refused, False.elim⟩
  exact := by
    intro key
    have none : (s.goto (.locking refusals)).worker.held = none :=
      Worker.held_of_not_acquired refused
    rw [none]
    exact iff_of_false (exact.not_holds refused key) (by simp)
  others := fun _ _ _ => Iff.rfl

/-- The key has been granted. -/
theorem Exchange.granted (single : s.locks.Single) (exact : s.Exact)
    (refused : s.worker.acquired = false) (connected : s.worker.connected = true) {key : LockKey}
    (lock : s.worker.job.lock = some key) (free : s.locks.Free s.worker.session key)
    (tasks : List WorkerTask) :
    Exchange s
      { s with
        locks := s.locks.grant s.worker.session key free
        worker := { s.worker with acquired := true, phase := .working tasks false } } where
  session := rfl
  job := rfl
  single := single.grant free (exact.not_holds refused key)
  honest := ⟨by simp, fun _ => .inr rfl⟩
  exact := by
    intro key'
    have held : ({ s.worker with acquired := true, phase := .working tasks false } : Worker).held
        = some key := (if_pos ⟨rfl, connected, trivial⟩).trans lock
    rw [held, Option.some.injEq]
    simp only [LockTable.holds_grant, exact.not_holds refused key', true_and, false_or]
    exact eq_comm
  others := by
    intro session key' other
    simp only [LockTable.holds_grant, other, false_and, or_false]

/-- One turn of the loop that asks for the lock. -/
theorem Exchange.tryLockStep (single : s.locks.Single) (honest : s.worker.Honest)
    (exact : s.Exact) {refusals : ℕ} (phase : s.worker.phase = .locking refusals) (failed : Bool)
    {key : LockKey} (lock : s.worker.job.lock = some key) :
    Exchange s (s.tryLockStep failed key refusals) := by
  have live : s.worker.phase.Live := by rw [phase]; trivial
  have refused := honest.locking refusals phase
  unfold WorkerState.tryLockStep
  simp only
  split
  · cases s.worker.job.ownPool with
    | true => exact .goto single honest exact live _ .leaving trivial (by simp) False.elim
    | false => exact .goto single honest exact live _ .stranded trivial (by simp) False.elim
  · rename_i answered
    rw [not_or, not_not] at answered
    by_cases free : s.locks.Free s.worker.session key
    · rw [LockTable.tryLock_of_free free]
      exact .granted single exact refused answered.2 lock free _
    · rw [LockTable.tryLock_of_not_free free]
      simp only [Bool.false_eq_true, if_false]
      split
      · exact .refused single exact refused _
      · cases s.worker.job.ownPool with
        | true => exact .goto single honest exact live _ .leaving trivial (by simp) False.elim
        | false => exact .ended single (exact.not_holds refused) fun _ _ _ => Iff.rfl

theorem Exchange.unlockStep (single : s.locks.Single) (honest : s.worker.Honest)
    (exact : s.Exact) (phase : s.worker.phase = .leaving) (failed : Bool) :
    Exchange s (s.unlockStep failed) := by
  have live : s.worker.phase.Live := by rw [phase]; trivial
  unfold WorkerState.unlockStep
  simp only
  split
  · rename_i lock
    refine .ended single (fun key holds => ?_) fun _ _ _ => Iff.rfl
    rw [exact key] at holds
    rw [Worker.lock_of_held holds] at lock
    cases lock
  · rename_i key lock
    split
    · split
      · exact .endSession single
      · exact .goto single honest exact live _ .stranded trivial (by simp) False.elim
    · refine .ended (single.unlock _ _) (fun key' holds => ?_) fun session key' other => ?_
      · rw [single.holds_unlock, exact key'] at holds
        have same := Worker.lock_of_held holds.1
        rw [lock, Option.some.injEq] at same
        exact holds.2 ⟨rfl, same.symm⟩
      · rw [single.holds_unlock]
        exact and_iff_left fun same => other same.1

variable {viem : Viem} {keccak256 : String → String} {isAddress : String → Bool}

/-- The next task does not touch the locks, and leads to a place behind them. -/
theorem Performed.goto {answers : TaskAnswers} {tasks : List WorkerTask} {task : WorkerTask}
    {next : WorkerState}
    (performed : Performed viem keccak256 isAddress answers tasks s task next) :
    ∃ database phase, next = WorkerState.goto { s with database } phase ∧ phase.Live ∧
      ∀ refusals, phase ≠ .locking refusals := by
  cases performed with
  | failed plan error =>
      refine ⟨_, _, rfl, ?_⟩
      unfold WorkerState.ingestFailed
      split
      · exact ⟨trivial, by simp⟩
      · exact ⟨trivial, by simp⟩
  | called task call phase asks goesOn =>
      refine ⟨_, _, rfl, ?_⟩
      rcases goesOn with rfl | ⟨invalid, rfl⟩
      · exact ⟨trivial, by simp⟩
      · exact ⟨trivial, by simp⟩
  | _ => exact ⟨_, _, rfl, trivial, by simp⟩

/-- **Every step of a worker exchanges locks with the server.** -/
theorem Moves.exchange {action : WorkerAction} {next : WorkerMove}
    (move : Moves viem keccak256 isAddress s action next) (single : s.locks.Single)
    (honest : s.worker.Honest) (exact : s.Exact) : Exchange s next.1 := by
  cases move with
  | idle action => exact .refl single honest exact
  | asked failed key refusals phase lock => exact .tryLockStep single honest exact phase failed lock
  | left answers invalid phase =>
      exact .goto single honest exact (by rw [phase]; trivial) _ .leaving trivial (by simp)
        False.elim
  | performed answers task tasks invalid next phase performed =>
      obtain ⟨database, phase', rfl, live, notLocking⟩ := performed.goto
      exact .goto single honest exact (by rw [phase]; trivial) database phase' live notLocking
        fun _ => by rw [phase]; trivial
  | ingested input plan run tasks phase =>
      have inside : s.worker.phase.Inside := by rw [phase]; trivial
      have behind (run : IngestRun) : (WorkerState.ingestPhase plan run tasks).Live ∧
          ∀ refusals, WorkerState.ingestPhase plan run tasks ≠ .locking refusals := by
        unfold WorkerState.ingestPhase WorkerState.ingestFailed
        split
        · exact ⟨trivial, by simp⟩
        · split <;> exact ⟨trivial, by simp⟩
        · split <;> exact ⟨trivial, by simp⟩
      exact .goto single honest exact inside.live _ _ (behind _).1 (behind _).2 fun _ => inside
  | unlocked failed phase => exact .unlockStep single honest exact phase failed
  | disconnected live =>
      refine ⟨rfl, rfl, single.endSession _, ⟨honest.locking, honest.inside⟩, ?_, ?_⟩
      · intro key
        rw [LockTable.holds_endSession]
        exact iff_of_false (fun holds => holds.2 rfl) (by simp [Worker.held])
      · intro session key other
        rw [LockTable.holds_endSession, and_iff_left other]
  | crashed live => exact .endSession single

/-- A worker that has ended does nothing more. -/
theorem Moves.of_ended {action : WorkerAction} {next : WorkerMove}
    (move : Moves viem keccak256 isAddress s action next) (ended : ¬ s.worker.phase.Live) :
    next = (s, []) := by
  cases move with
  | idle action => rfl
  | disconnected live => exact absurd live ended
  | crashed live => exact absurd live ended
  | asked failed key refusals phase lock => exact absurd (by rw [phase]; trivial) ended
  | left answers invalid phase => exact absurd (by rw [phase]; trivial) ended
  | performed answers task tasks invalid next phase performed =>
      exact absurd (by rw [phase]; trivial) ended
  | ingested input plan run tasks phase => exact absurd (by rw [phase]; trivial) ended
  | unlocked failed phase => exact absurd (by rw [phase]; trivial) ended

end Step

/-! ## All of them -/

/-- Who is at a position after one worker has moved. -/
theorem getElem?_set_worker {workers : List Worker} {index i : ℕ} {worker worker' other : Worker}
    (found : workers[index]? = some worker)
    (at_ : (workers.set index worker')[i]? = some other) :
    (i = index ∧ other = worker') ∨ (i ≠ index ∧ workers[i]? = some other) := by
  by_cases self : i = index
  · subst self
    rw [List.getElem?_set_self (List.getElem?_eq_some_iff.mp found).1, Option.some.injEq] at at_
    exact .inl ⟨rfl, at_.symm⟩
  · rw [List.getElem?_set_ne (Ne.symm self)] at at_
    exact .inr ⟨self, at_⟩

/-- The table of the server and the variables of the workers say the same. -/
structure Orderly (s : WorkerSystem) : Prop where
  single : s.locks.Single
  honest : ∀ worker ∈ s.workers, worker.Honest
  exact : ∀ worker ∈ s.workers, worker.phase.Live → ∀ key,
    s.locks.Holds worker.session key ↔ worker.held = some key
  owned : ∀ session key, s.locks.Holds session key →
    ∃ worker ∈ s.workers, worker.phase.Live ∧ worker.session = session
  distinct : ∀ (i j : ℕ) (worker other : Worker), s.workers[i]? = some worker →
    s.workers[j]? = some other → worker.phase.Live → other.phase.Live →
      worker.session = other.session → i = j

theorem Orderly.boot (database : WholeDatabase) : Orderly (.boot database) where
  single := LockTable.single_empty
  honest := fun _ mem => absurd mem List.not_mem_nil
  exact := fun _ mem => absurd mem List.not_mem_nil
  owned := fun session key holds => absurd holds (LockTable.not_holds_empty session key)
  distinct := fun i _ _ _ found => by simp [WorkerSystem.boot] at found

section System

variable {viem : Viem} {keccak256 : String → String} {isAddress : String → Bool}
  {s : WorkerSystem}

/-- A new worker on a connection that nobody uses. -/
theorem Orderly.spawn (orderly : Orderly s) (job : WorkerJob) {session : ℕ}
    (unused : ¬ ∃ worker ∈ s.workers, worker.phase.Live ∧ worker.session = session) :
    Orderly { s with workers := s.workers ++ [.start job session] } where
  single := orderly.single
  honest := by
    intro worker mem
    rcases List.mem_append.mp mem with old | new
    · exact orderly.honest worker old
    · obtain rfl := List.mem_singleton.mp new
      exact Worker.honest_start job session
  exact := by
    intro worker mem live key
    rcases List.mem_append.mp mem with old | new
    · exact orderly.exact worker old live key
    · obtain rfl := List.mem_singleton.mp new
      rw [Worker.held_start]
      exact iff_of_false (fun holds => unused (orderly.owned session key holds)) (by simp)
  owned := by
    intro session' key holds
    obtain ⟨worker, mem, owns⟩ := orderly.owned session' key holds
    exact ⟨worker, List.mem_append_left _ mem, owns⟩
  distinct := by
    have position {i : ℕ} {worker : Worker}
        (found : (s.workers ++ [.start job session])[i]? = some worker) :
        s.workers[i]? = some worker ∨ i = s.workers.length ∧ worker = .start job session := by
      rcases lt_or_ge i s.workers.length with inside | beyond
      · rw [List.getElem?_append_left inside] at found
        exact .inl found
      · rw [List.getElem?_append_right beyond, List.getElem?_singleton] at found
        split at found
        · cases found
          exact .inr ⟨by omega, rfl⟩
        · cases found
    intro i j worker other found found' live live' same
    rcases position found with old | ⟨rfl, rfl⟩
    · rcases position found' with old' | ⟨rfl, rfl⟩
      · exact orderly.distinct i j worker other old old' live live' same
      · exact absurd ⟨worker, List.mem_of_getElem? old, live, same⟩ unused
    · rcases position found' with old' | ⟨rfl, rfl⟩
      · exact absurd ⟨other, List.mem_of_getElem? old', live', same.symm⟩ unused
      · rfl

/-- A worker has exchanged locks with the server. -/
theorem Orderly.exchange (orderly : Orderly s) {index : ℕ} {worker : Worker}
    (found : s.workers[index]? = some worker) (live : worker.phase.Live) {next : WorkerState}
    (exchange : Exchange ⟨s.database, s.locks, worker⟩ next) :
    Orderly ⟨next.database, next.locks, s.workers.set index next.worker⟩ := by
  have others : ∀ (i : ℕ) (other : Worker), i ≠ index → s.workers[i]? = some other →
      other.phase.Live → other.session ≠ worker.session :=
    fun i other different at_ live' same =>
      different (orderly.distinct i index other worker at_ found live' live same)
  refine ⟨exchange.single, fun other mem => ?_, fun other mem live' key => ?_,
    fun session key holds => ?_, fun i j one other at_ at_' live₁ live₂ same => ?_⟩
  · rcases List.mem_or_eq_of_mem_set mem with old | rfl
    · exact orderly.honest other old
    · exact exchange.honest
  · obtain ⟨i, at_⟩ := List.mem_iff_getElem?.mp mem
    rcases getElem?_set_worker found at_ with ⟨-, rfl⟩ | ⟨different, old⟩
    · exact exchange.exact key
    · rw [exchange.others _ key (others i other different old live')]
      exact orderly.exact other (List.mem_of_getElem? old) live' key
  · by_cases own : session = worker.session
    · subst own
      have inside := (List.getElem?_eq_some_iff.mp found).1
      rw [← show next.worker.session = worker.session from exchange.session, exchange.exact key]
        at holds
      exact ⟨next.worker, List.mem_set inside _, Worker.live_of_held holds, exchange.session⟩
    · rw [exchange.others session key own] at holds
      obtain ⟨owner, mem, live', rfl⟩ := orderly.owned session key holds
      obtain ⟨i, at_⟩ := List.mem_iff_getElem?.mp mem
      have different : index ≠ i := by
        rintro rfl
        rw [found] at at_
        cases at_
        exact own rfl
      refine ⟨owner, List.mem_iff_getElem?.mpr ⟨i, ?_⟩, live', rfl⟩
      rw [List.getElem?_set_ne different]
      exact at_
  · rcases getElem?_set_worker found at_ with ⟨rfl, rfl⟩ | ⟨different, old⟩
    · rcases getElem?_set_worker found at_' with ⟨rfl, rfl⟩ | ⟨different', old'⟩
      · rfl
      · exact absurd (same.symm.trans exchange.session) (others j other different' old' live₂)
    · rcases getElem?_set_worker found at_' with ⟨rfl, rfl⟩ | ⟨different', old'⟩
      · exact absurd (same.trans exchange.session) (others i one different old live₁)
      · exact orderly.distinct i j one other old old' live₁ live₂ same

/-- **Every step of the system keeps the locks in order.** -/
theorem Orderly.step (orderly : Orderly s) (input : WorkerInput) :
    Orderly (workerStep viem keccak256 isAddress input s).1 := by
  rcases workerStep_spec viem keccak256 isAddress input s with eq |
    ⟨job, session, rfl, unused, eq⟩ | ⟨index, action, worker, next, rfl, found, move, eq⟩ |
    ⟨call, rfl, eq⟩
  · rw [eq]
    exact orderly
  · rw [eq]
    exact orderly.spawn job unused
  · rw [eq]
    have mem := List.mem_of_getElem? found
    by_cases live : worker.phase.Live
    · exact orderly.exchange found live (move.exchange orderly.single
        (orderly.honest worker mem) (orderly.exact worker mem live))
    · rw [move.of_ended live]
      have same : s.workers.set index worker = s.workers := by
        obtain ⟨inside, rfl⟩ := List.getElem?_eq_some_iff.mp found
        exact List.set_getElem_self inside
      simp only [same]
      exact orderly
  · rw [eq]
    exact ⟨orderly.single, orderly.honest, orderly.exact, orderly.owned, orderly.distinct⟩

/-- Two workers that hold one key are the same worker. -/
theorem Orderly.eq_of_held (orderly : Orderly s) {i j : ℕ} {worker other : Worker} {key : LockKey}
    (found : s.workers[i]? = some worker) (found' : s.workers[j]? = some other)
    (held : worker.held = some key) (held' : other.held = some key) : i = j := by
  have live := Worker.live_of_held held
  have live' := Worker.live_of_held held'
  refine orderly.distinct i j worker other found found' live live' ?_
  have holds := (orderly.exact worker (List.mem_of_getElem? found) live key).mpr held
  have holds' := (orderly.exact other (List.mem_of_getElem? found') live' key).mpr held'
  exact holds.session_eq holds'

/-- A key is locked exactly if a worker has been given it. -/
theorem Orderly.holds_iff (orderly : Orderly s) (session : ℕ) (key : LockKey) :
    s.locks.Holds session key
      ↔ ∃ worker ∈ s.workers, worker.session = session ∧ worker.held = some key := by
  constructor
  · intro holds
    obtain ⟨worker, mem, live, rfl⟩ := orderly.owned session key holds
    exact ⟨worker, mem, rfl, (orderly.exact worker mem live key).mp holds⟩
  · rintro ⟨worker, mem, rfl, held⟩
    exact (orderly.exact worker mem (Worker.live_of_held held) key).mpr held

/-- A worker is refused a key exactly if another one holds it. -/
theorem Orderly.tryLock_eq_false_iff (orderly : Orderly s) {i : ℕ} {worker : Worker}
    (found : s.workers[i]? = some worker) (live : worker.phase.Live) (key : LockKey) :
    (s.locks.tryLock worker.session key).1 = false
      ↔ ∃ (j : ℕ) (other : Worker), j ≠ i ∧ s.workers[j]? = some other ∧
          other.held = some key := by
  have denied : (s.locks.tryLock worker.session key).1 = false
      ↔ ¬ s.locks.Free worker.session key := by
    by_cases free : s.locks.Free worker.session key
    · simp [LockTable.tryLock_of_free free, free]
    · simp [LockTable.tryLock_of_not_free free, free]
  rw [denied, LockTable.not_free_iff]
  constructor
  · rintro ⟨session, different, holds⟩
    obtain ⟨other, mem, rfl, held⟩ := (orderly.holds_iff session key).mp holds
    obtain ⟨j, at_⟩ := List.mem_iff_getElem?.mp mem
    refine ⟨j, other, ?_, at_, held⟩
    rintro rfl
    rw [found] at at_
    cases at_
    exact different rfl
  · rintro ⟨j, other, different, at_, held⟩
    refine ⟨other.session, fun same => different ?_,
      (orderly.holds_iff _ key).mpr ⟨other, List.mem_of_getElem? at_, rfl, held⟩⟩
    exact orderly.distinct j i other worker at_ found (Worker.live_of_held held) live same

end System

/-- The locks are in order at any moment of any interleaving. -/
theorem orderly_run (viem : Viem) (keccak256 : String → String) (isAddress : String → Bool)
    (database : WholeDatabase) (schedule : List WorkerInput) :
    Orderly (Machine.run (workerStep viem keccak256 isAddress) schedule (.boot database)).1 :=
  Machine.run_invariant (fun s _ => Orderly s) (fun input _ _ orderly => orderly.step input)
    schedule (.boot database)

/-- **The advisory locks exclude, and nothing else does.**  Whatever jobs are started, and
whichever connections are lost and processes die: a key is locked exactly if a worker has been
given it and its connection is still there; no two workers have been given one key; a worker
between its lock and its `finally` block has its key as long as its connection is there; and a
worker is refused a key exactly if another one has it. -/
theorem advisory_locks_exclude (viem : Viem) (keccak256 : String → String)
    (isAddress : String → Bool) (database : WholeDatabase) (schedule : List WorkerInput) :
    let s := (Machine.run (workerStep viem keccak256 isAddress) schedule (.boot database)).1
    (∀ session key, s.locks.Holds session key
      ↔ ∃ worker ∈ s.workers, worker.session = session ∧ worker.held = some key) ∧
    (∀ (i j : ℕ) (worker other : Worker) (key : LockKey), s.workers[i]? = some worker →
      s.workers[j]? = some other → worker.held = some key → other.held = some key → i = j) ∧
    (∀ worker ∈ s.workers, worker.phase.Inside → worker.connected = true →
      worker.held = worker.job.lock) ∧
    ∀ (i : ℕ) (worker : Worker) (key : LockKey), s.workers[i]? = some worker →
      worker.phase.Live →
        ((s.locks.tryLock worker.session key).1 = false
          ↔ ∃ (j : ℕ) (other : Worker), j ≠ i ∧ s.workers[j]? = some other ∧
              other.held = some key) := by
  intro s
  have orderly : Orderly s := orderly_run viem keccak256 isAddress database schedule
  refine ⟨orderly.holds_iff, fun i j worker other key found found' => ?_,
    fun worker mem => (orderly.honest worker mem).held_eq,
    fun i worker key found live => orderly.tryLock_eq_false_iff found live key⟩
  exact orderly.eq_of_held found found'

end UsdpIndexer
