import Mathlib.Algebra.Order.Group.Int
import Mathlib.Data.List.Induction
import UsdpIndexer.Library.Pacing

/-!
# The rate limit of a client

`rateLimitedTransport` of `rpc/evm-client.ts`, and its copy in `rpc/hyperevm-client.ts`.  Any
number of requests of one client are under way at once.  Each of them draws its turn from
`nextStartAt` before it waits for anything, so that no two of them draw the same; then it waits
for its timer and asks the endpoint, whenever the timer comes back.

Timers may be late, in whatever order, and the clock may jump.  What is paced are the turns.  A
timer measures what has elapsed and the clock is not read again when it comes back: a request
starts at its turn or after it as long as the clock is not set back while it waits.

Times are in milliseconds.
-/

namespace UsdpIndexer

open Pacing

/-- How a request has started: what had elapsed since its second look at the clock, and what the
clock would have said. -/
structure LimitedStart where
  waited : ℤ
  clock : ℤ
deriving DecidableEq, Repr

/-- A request of a client: what the clock said when it came in and when its delay was computed,
its turn, and how the endpoint has been asked, if it has been. -/
structure LimitedRequest where
  now : ℤ
  later : ℤ
  scheduledAt : ℤ
  started : Option LimitedStart
deriving DecidableEq, Repr

/-- The closure of `rateLimitedTransport`, with the requests it has been given. -/
structure RateLimiter where
  nextStartAt : ℤ
  requests : List LimitedRequest

/-- The closure as it is made, before any request. -/
def RateLimiter.fresh : RateLimiter := ⟨0, []⟩

/-- A request reads the clock twice.  A timer comes back to its request when some time has
elapsed; the clock may say anything by then. -/
inductive LimiterInput
  | request (now later : ℤ)
  | timeout (request : ℕ) (waited clock : ℤ)

/-- The longest delay of a timer; `setTimeout` takes one millisecond for a longer one. -/
def TIMEOUT_MAX : ℤ := 2147483647

/-- What `setTimeout` waits for at least. -/
def timerDelay (delay : ℤ) : ℤ := if delay > TIMEOUT_MAX then 1 else delay

/-- The call of `request`, up to its `await`. -/
def RateLimiter.request (minRequestIntervalMs now later : ℤ) (limiter : RateLimiter) :
    RateLimiter :=
  let scheduledAt := max now limiter.nextStartAt
  let delay := scheduledAt - later
  { nextStartAt := scheduledAt + minRequestIntervalMs
    requests := limiter.requests ++
      [⟨now, later, scheduledAt, if delay > 0 then none else some ⟨0, later⟩⟩] }

/-- The timer of a request that waits; before its delay has elapsed it does not come back. -/
def RateLimiter.timeout (request : ℕ) (waited clock : ℤ) (limiter : RateLimiter) : RateLimiter :=
  match limiter.requests[request]? with
  | some waiting =>
      if waiting.started = none ∧ timerDelay (waiting.scheduledAt - waiting.later) ≤ waited then
        { limiter with
          requests := limiter.requests.set request
            { waiting with started := some ⟨waited, clock⟩ } }
      else limiter
  | none => limiter

/-- One step of a client. -/
def limiterStep (minRequestIntervalMs : ℤ) (limiter : RateLimiter) : LimiterInput → RateLimiter
  | .request now later => limiter.request minRequestIntervalMs now later
  | .timeout request waited clock => limiter.timeout request waited clock

/-- The client after these steps. -/
def limiterRun (minRequestIntervalMs : ℤ) (inputs : List LimiterInput) : RateLimiter :=
  inputs.foldl (limiterStep minRequestIntervalMs) .fresh

/-! ## The turns are paced -/

/-- The wait of a request fits a timer, and while it waits the clock is not set back: it moves on
by what elapses at least. -/
structure LimitedRequest.ClockKept (request : LimitedRequest) : Prop where
  fits : request.scheduledAt - request.later ≤ TIMEOUT_MAX
  moves : ∀ start ∈ request.started, request.later + start.waited ≤ start.clock

/-- The turns are those of `pace`, and nothing starts before its delay has elapsed. -/
structure RateLimiter.Paced (minRequestIntervalMs : ℤ) (limiter : RateLimiter) : Prop where
  next : limiter.nextStartAt = nextFree minRequestIntervalMs 0 (limiter.requests.map (·.now))
  turns : limiter.requests.map (·.scheduledAt)
    = pace minRequestIntervalMs 0 (limiter.requests.map (·.now))
  started : ∀ request ∈ limiter.requests, ∀ start ∈ request.started,
    timerDelay (request.scheduledAt - request.later) ≤ start.waited

/-- What is the same of the new element stays the same of the list. -/
theorem map_set_of_eq {α β : Type*} {l : List α} {i : ℕ} {a b : α} {f : α → β}
    (found : l[i]? = some a) (same : f b = f a) : (l.set i b).map f = l.map f := by
  obtain ⟨inside, rfl⟩ := List.getElem?_eq_some_iff.mp found
  have inside' : i < (l.map f).length := by rwa [List.length_map]
  rw [List.map_set, same, ← @List.getElem_map _ _ f l i inside', List.set_getElem_self]

section Run

variable {minRequestIntervalMs : ℤ} {limiter : RateLimiter}

theorem RateLimiter.Paced.request (paced : limiter.Paced minRequestIntervalMs) (now later : ℤ) :
    (limiter.request minRequestIntervalMs now later).Paced minRequestIntervalMs where
  next := by
    simp only [RateLimiter.request, List.map_append, List.map_cons, List.map_nil]
    rw [nextFree_concat, ← paced.next]
  turns := by
    simp only [RateLimiter.request, List.map_append, List.map_cons, List.map_nil]
    rw [pace_concat, ← paced.next, ← paced.turns]
  started := by
    intro request mem start asked
    rcases List.mem_append.mp mem with old | new
    · exact paced.started request old start asked
    · obtain rfl := List.mem_singleton.mp new
      dsimp only at asked ⊢
      split at asked
      · cases asked
      · -- a turn that has come is not waited for
        rename_i due
        obtain rfl := Option.some.inj asked
        have fits : ¬ max now limiter.nextStartAt - later > TIMEOUT_MAX :=
          fun long => due (lt_trans (by decide) long)
        rw [timerDelay, if_neg fits]
        exact not_lt.mp due

theorem RateLimiter.Paced.timeout (paced : limiter.Paced minRequestIntervalMs) (request : ℕ)
    (waited clock : ℤ) : (limiter.timeout request waited clock).Paced minRequestIntervalMs := by
  unfold RateLimiter.timeout
  cases found : limiter.requests[request]? with
  | none => exact paced
  | some waiting =>
      simp only
      split
      · rename_i due
        -- the request keeps its turn
        have times : (limiter.requests.set request
            { waiting with started := some ⟨waited, clock⟩ }).map (·.now)
              = limiter.requests.map (·.now) := map_set_of_eq found rfl
        have turns : (limiter.requests.set request
            { waiting with started := some ⟨waited, clock⟩ }).map (·.scheduledAt)
              = limiter.requests.map (·.scheduledAt) := map_set_of_eq found rfl
        refine ⟨?_, ?_, fun other mem start asked => ?_⟩
        · rw [times]
          exact paced.next
        · rw [turns, times]
          exact paced.turns
        · rcases List.mem_or_eq_of_mem_set mem with old | rfl
          · exact paced.started other old start asked
          · obtain rfl := Option.some.inj asked
            exact due.2
      · exact paced

theorem paced_run (inputs : List LimiterInput) :
    (limiterRun minRequestIntervalMs inputs).Paced minRequestIntervalMs := by
  refine List.foldlRecOn inputs _ ⟨rfl, rfl, fun _ mem => absurd mem List.not_mem_nil⟩ ?_
  intro limiter paced input _
  cases input with
  | request now later => exact paced.request now later
  | timeout request waited clock => exact paced.timeout request waited clock

/-- A request whose clock is kept starts at its turn or after it. -/
theorem RateLimiter.Paced.scheduledAt_le_clock (paced : limiter.Paced minRequestIntervalMs)
    {request : LimitedRequest} (mem : request ∈ limiter.requests) (clock : request.ClockKept) :
    ∀ start ∈ request.started, request.scheduledAt ≤ start.clock := by
  intro start asked
  have delayed := paced.started request mem start asked
  rw [timerDelay, if_neg (not_lt.mpr clock.fits)] at delayed
  have moved := clock.moves start asked
  omega

/-! ## What the endpoint sees -/

/-- **A client does not ask too often, and no later than it has to.**  Whatever requests come in
while others are under way, however late their timers are and whatever the clock does: no turn
is before the request has come in; a window of `n` intervals has at most `n` turns; the turns
are the earliest of all that keep the order and the interval; and a request that comes in when
no clock reading before it is later has its turn within one interval more than there are turns
still to come.  A request during whose wait the clock is not set back starts at its turn or
after it; and if that is so of all of them, at most `n` requests have been started before `n`
intervals are over since the first turn. -/
theorem rate_limit_paces (minRequestIntervalMs : ℤ) (positive : 0 < minRequestIntervalMs)
    (inputs : List LimiterInput) :
    let requests := (limiterRun minRequestIntervalMs inputs).requests
    (∀ request ∈ requests, request.now ≤ request.scheduledAt) ∧
    (∀ (start : ℤ) (n : ℕ), requests.countP (fun request => start ≤ request.scheduledAt ∧
      request.scheduledAt < start + n • minRequestIntervalMs) ≤ n) ∧
    (∀ request ∈ requests, request.ClockKept →
      ∀ start ∈ request.started, request.scheduledAt ≤ start.clock) ∧
    ((∀ request ∈ requests, request.ClockKept) →
      ∀ first ∈ requests.head?, ∀ n : ℕ, requests.countP (fun request => request.started.any
        (·.clock < first.scheduledAt + n • minRequestIntervalMs)) ≤ n) ∧
    (∀ turns : List ℤ, List.Forall₂ (· ≤ ·) (requests.map (·.now)) turns →
      Spaced minRequestIntervalMs turns → (∀ first ∈ turns.head?, 0 ≤ first) →
        List.Forall₂ (· ≤ ·) (requests.map (·.scheduledAt)) turns) ∧
    ∀ now later : ℤ, 0 ≤ now → (∀ request ∈ requests, request.now ≤ now) →
      ∀ request ∈ (limiterRun minRequestIntervalMs
          (inputs ++ [.request now later])).requests.getLast?,
        request.scheduledAt ≤ now +
          (requests.countP (now < ·.scheduledAt) + 1) • minRequestIntervalMs := by
  intro requests
  have paced : (limiterRun minRequestIntervalMs inputs).Paced minRequestIntervalMs :=
    paced_run inputs
  have spaced : Spaced minRequestIntervalMs (requests.map (·.scheduledAt)) := by
    rw [paced.turns]
    exact spaced_pace 0
  have windows (start : ℤ) (n : ℕ) : requests.countP (fun request =>
      start ≤ request.scheduledAt ∧
        request.scheduledAt < start + n • minRequestIntervalMs) ≤ n := by
    have counted := spaced.countP_window_le positive start n
    rwa [List.countP_map] at counted
  refine ⟨fun request mem => ?_, windows, fun request mem kept =>
    paced.scheduledAt_le_clock mem kept, ?_, ?_, ?_⟩
  · have after : List.Forall₂ (· ≤ ·) (requests.map (·.now)) (requests.map (·.scheduledAt)) := by
      rw [paced.turns]
      exact le_pace 0
    rw [List.forall₂_map_left_iff, List.forall₂_map_right_iff, List.forall₂_same] at after
    exact after request mem
  · intro kept first head n
    refine le_trans (List.countP_mono_left fun request mem asked => ?_)
      (windows first.scheduledAt n)
    obtain ⟨start, started, early⟩ := (Option.any_eq_true _ _).mp asked
    have turn := paced.scheduledAt_le_clock mem (kept request mem) start started
    have early := of_decide_eq_true early
    refine decide_eq_true ⟨?_, by omega⟩
    -- the first turn is the earliest
    obtain ⟨rest, eq⟩ := List.head?_eq_some_iff.mp head
    rw [eq] at spaced mem
    rcases List.mem_cons.mp mem with rfl | later
    · exact le_rfl
    · have apart := spaced.le_of_mem positive.le _ (List.mem_map_of_mem later)
      exact (le_add_of_nonneg_right positive.le).trans apart
  · intro turns after apart allowed
    rw [paced.turns]
    exact pace_le after apart allowed
  · intro now later nonneg before request last
    have next : limiterRun minRequestIntervalMs (inputs ++ [.request now later])
        = (limiterRun minRequestIntervalMs inputs).request minRequestIntervalMs now later :=
      List.foldl_concat _ _ _ _
    rw [next, RateLimiter.request, List.getLast?_concat] at last
    obtain rfl := Option.some.inj last
    have backlog := @nextFree_le_backlog ℤ _ _ minRequestIntervalMs (requests.map (·.now)) _
      positive.le now (List.forall_mem_map.mpr before) 0 0 (by
        rw [zero_add, one_nsmul]
        omega)
    rw [← paced.next, ← paced.turns, List.countP_map, zero_add] at backlog
    refine max_le ?_ backlog
    exact le_add_of_nonneg_right (nsmul_nonneg positive.le _)

end Run

/-! ### Three requests at once -/

/-- Three requests come in within a millisecond, and the second one's timer is late. -/
def burst : List LimiterInput :=
  [.request 1000 1000, .request 1000 1000, .request 1001 1001, .timeout 1 600 1600,
    .timeout 1 700 1700]

theorem requests_burst : (limiterRun 650 burst).requests
    = [⟨1000, 1000, 1000, some ⟨0, 1000⟩⟩, ⟨1000, 1000, 1650, some ⟨700, 1700⟩⟩,
      ⟨1001, 1001, 2300, none⟩] := by
  decide

/-- While they wait the clock is not set back. -/
theorem clockKept_burst : ∀ request ∈ (limiterRun 650 burst).requests, request.ClockKept := by
  rw [requests_burst]
  simp only [List.forall_mem_cons]
  refine ⟨⟨by decide, ?_⟩, ⟨by decide, ?_⟩, ⟨by decide, ?_⟩, by simp⟩
  · rintro _ ⟨⟩
    decide
  · rintro _ ⟨⟩
    decide
  · rintro _ ⟨⟩

theorem rate_limit_paces_burst :
    (∀ start : ℤ, (limiterRun 650 burst).requests.countP (fun request =>
        start ≤ request.scheduledAt ∧ request.scheduledAt < start + 2 • 650) ≤ 2) ∧
      ∀ n : ℕ, (limiterRun 650 burst).requests.countP (fun request =>
        request.started.any (·.clock < 1000 + n • 650)) ≤ n := by
  obtain ⟨-, windows, -, started, -⟩ := rate_limit_paces 650 (by decide) burst
  refine ⟨fun start => windows start 2,
    started clockKept_burst ⟨1000, 1000, 1000, some ⟨0, 1000⟩⟩ ?_⟩
  rw [requests_burst]
  rfl

/-- The clock is set back by a second while the second request waits for its turn at 1650: it
starts when the clock says 650. -/
example : (limiterRun 650 [.request 1000 1000, .request 1000 1000, .timeout 1 650 650]).requests
    = [⟨1000, 1000, 1000, some ⟨0, 1000⟩⟩, ⟨1000, 1000, 1650, some ⟨650, 650⟩⟩] := by
  decide

end UsdpIndexer
