import UsdpIndexer.Analytics.RateWindows
import UsdpIndexer.Protocol.AccrualFormula

/-!
# What an accrual settles

The integration charges a rate from the last accrual on, and it charges it on the assets of
the moment.  So an event that changes the assets or the rate belongs behind an accrual at its
own time.  Where every such event is there, the integrated yield is not negative
(`integratedYpo_nonneg`).

An accrual at rate zero leaves no log, and then a new rate comes without one; it is charged
for the time before it as well, which changes the result unless the first charge after it
happens to be the same (`rateUpdated_settled_iff`).
-/

namespace UsdpIndexer

open StableOrder FailingFold

/-! ## Disciplined histories -/

/-- The amount that an event states. -/
def SavingsRatePayload.amount : SavingsRatePayload → ℤ
  | .accrued interest => interest
  | .deposit assets => assets
  | .withdraw assets => assets
  | .rateUpdated newRate => newRate

/-- Every event but an accrual happens at the last update in force. -/
def Disciplined : ℤ → List SavingsRateSegmentEvent → Prop
  | _, [] => True
  | lastUpdate, event :: events =>
      match event.payload with
      | .accrued _ => Disciplined event.timestamp events
      | _ => event.timestamp = lastUpdate ∧ Disciplined lastUpdate events

instance decidableDisciplined : ∀ lastUpdate events, Decidable (Disciplined lastUpdate events)
  | _, [] => .isTrue trivial
  | lastUpdate, event :: events =>
      match payload : event.payload with
      | .accrued _ =>
          have := decidableDisciplined event.timestamp events
          decidable_of_iff (Disciplined event.timestamp events) (by rw [Disciplined, payload])
      | .deposit _ | .withdraw _ | .rateUpdated _ =>
          have := decidableDisciplined lastUpdate events
          decidable_of_iff (event.timestamp = lastUpdate ∧ Disciplined lastUpdate events)
            (by rw [Disciplined, payload])

/-- **One event of a disciplined history** is an accrual or comes right behind one, and a
disciplined history follows it. -/
theorem Disciplined.step {window : RateWindow} {state next : RateState}
    {event : SavingsRateSegmentEvent} {events : List SavingsRateSegmentEvent}
    (disciplined : Disciplined state.lastUpdate (event :: events))
    (step : rateStep window state event = .ok next) :
    ((∃ interest, event.payload = .accrued interest) ∨ event.timestamp = state.lastUpdate) ∧
      Disciplined next.lastUpdate events := by
  obtain ⟨-, move⟩ := rateMove_of_rateStep step
  rw [Disciplined] at disciplined
  cases move with
  | accrued interest predicted payload =>
      rw [payload] at disciplined
      exact ⟨.inl ⟨interest, payload⟩, disciplined⟩
  | deposit assets payload | withdraw assets payload | rateUpdated newRate payload =>
      rw [payload] at disciplined
      exact ⟨.inr disciplined.1, disciplined.2⟩

/-! ## Sound states -/

/-- From when on a state is charged at the earliest. -/
def RateState.settledAt (window : RateWindow) (state : RateState) : ℤ :=
  max window.blockTimestampAtStart state.lastUpdate

/-- What is pending at a time. -/
def RateState.pendingAt (state : RateState) (time : ℤ) : ℤ :=
  computeUpdatedAssets state.actualAssets state.rate (time - state.lastUpdate)
    - state.actualAssets

/-- The yield is made good by what is pending. -/
structure RateState.Sound (window : RateWindow) (state : RateState) : Prop where
  assets : 0 ≤ state.actualAssets
  rate : 0 ≤ state.rate
  update : state.lastUpdate ≤ window.blockTimestampAtEnd
  yield : 0 ≤ state.integratedYpo + state.pendingAt (state.settledAt window)

namespace RateState.Sound

variable {window : RateWindow} {state state' : RateState} {event : SavingsRateSegmentEvent}

theorem pendingAt_nonneg (sound : state.Sound window) {time : ℤ} (le : state.lastUpdate ≤ time) :
    0 ≤ state.pendingAt time := by
  have accrued := le_computeUpdatedAssets sound.assets sound.rate
    (show 0 ≤ time - state.lastUpdate by omega)
  rw [RateState.pendingAt]
  omega

/-- The yield with what is pending later on is not negative either. -/
theorem yield_at (sound : state.Sound window) {time : ℤ} (le : state.settledAt window ≤ time) :
    0 ≤ state.integratedYpo + state.pendingAt time := by
  have later := computeUpdatedAssets_mono_elapsed sound.assets sound.rate
    (show 0 ≤ state.settledAt window - state.lastUpdate by rw [RateState.settledAt]; omega)
    (show state.settledAt window - state.lastUpdate ≤ time - state.lastUpdate by omega)
  have now := sound.yield
  rw [RateState.pendingAt] at now ⊢
  omega

/-- Where nothing is pending the yield itself is not negative. -/
theorem ypo_nonneg (sound : state.Sound window)
    (started : window.blockTimestampAtStart ≤ state.lastUpdate) : 0 ≤ state.integratedYpo := by
  have now := sound.yield
  rw [RateState.settledAt, max_eq_right started, RateState.pendingAt, sub_self,
    computeUpdatedAssets_elapsed_zero, sub_self, add_zero] at now
  exact now

/-- A state that has just been updated is sound if its yield is not negative. -/
theorem of_updated (assets : 0 ≤ state.actualAssets) (rate : 0 ≤ state.rate)
    (started : window.blockTimestampAtStart ≤ state.lastUpdate)
    (update : state.lastUpdate ≤ window.blockTimestampAtEnd)
    (yield : 0 ≤ state.integratedYpo) : state.Sound window := by
  refine ⟨assets, rate, update, ?_⟩
  rw [RateState.settledAt, max_eq_right started, RateState.pendingAt, sub_self,
    computeUpdatedAssets_elapsed_zero, sub_self, add_zero]
  exact yield

/-- **One event keeps a state sound**, if it is an accrual or comes right behind one. -/
theorem step (sound : state.Sound window) (amount : 0 ≤ event.payload.amount)
    (disciplined : (∃ interest, event.payload = .accrued interest) ∨
      event.timestamp = state.lastUpdate)
    (run : rateStep window state event = .ok state') : state'.Sound window := by
  obtain ⟨⟨started, ended, reached⟩, move⟩ := rateMove_of_rateStep run
  -- what is no accrual comes at a time at which nothing is pending
  have settled (quiet : ∀ interest, event.payload ≠ .accrued interest) :
      window.blockTimestampAtStart ≤ state.lastUpdate := by
    obtain ⟨interest, accrued⟩ | now := disciplined
    · exact absurd accrued (quiet interest)
    · rw [now] at started
      exact started
  cases move with
  | accrued interest predicted payload charged =>
      rw [payload] at amount
      refine .of_updated (Int.add_nonneg sound.assets amount) sound.rate started ended ?_
      rw [charged]
      exact sound.yield_at (max_le started reached)
  | deposit assets payload =>
      have started := settled (by simp [payload])
      rw [payload] at amount
      exact .of_updated (Int.add_nonneg sound.assets amount) sound.rate started sound.update
        (sound.ypo_nonneg started)
  | withdraw assets payload enough =>
      have started := settled (by simp [payload])
      exact .of_updated (Int.sub_nonneg.mpr enough) sound.rate started sound.update
        (sound.ypo_nonneg started)
  | rateUpdated newRate payload =>
      have started := settled (by simp [payload])
      rw [payload] at amount
      exact .of_updated sound.assets amount started sound.update (sound.ypo_nonneg started)

/-- **A disciplined history keeps a state sound.** -/
theorem run {events : List SavingsRateSegmentEvent} :
    ∀ {state final : RateState}, state.Sound window →
      (∀ event ∈ events, 0 ≤ event.payload.amount) → Disciplined state.lastUpdate events →
      events.foldlM (rateStep window) state = .ok final → final.Sound window := by
  induction events with
  | nil =>
      intro state final sound _ _ run
      cases run
      exact sound
  | cons event events ih =>
      intro state final sound amounts disciplined run
      obtain ⟨next, first, rest⟩ := foldlM_cons_eq_ok.mp run
      obtain ⟨placed, later⟩ := disciplined.step first
      exact ih (sound.step (amounts event List.mem_cons_self) placed first)
        (fun event' mem => amounts event' (List.mem_cons_of_mem _ mem)) later rest

/-- What the window starts with is sound if its total is what its assets have become. -/
theorem initial (assets : 0 ≤ window.actualAssetsAtStart) (rate : 0 ≤ window.rateAtStart)
    (total : window.totalAssetsAtStart = computeUpdatedAssets window.actualAssetsAtStart
      window.rateAtStart (window.blockTimestampAtStart - window.lastUpdateAtStart))
    (ordered : ¬ window.Misordered) : window.initial.Sound window := by
  rw [RateWindow.Misordered, not_or, not_lt, not_lt] at ordered
  refine ⟨assets, rate, ordered.2.trans ordered.1, ?_⟩
  have settled : window.initial.settledAt window = window.blockTimestampAtStart :=
    max_eq_left ordered.2
  rw [settled, RateState.pendingAt]
  simp only [RateWindow.initial]
  omega

end RateState.Sound

/-- **The yield of a disciplined history is not negative**, and neither is what is pending at
its end. -/
theorem integratedYpo_nonneg {window : RateWindow} {events : List SavingsRateSegmentEvent}
    {result : SegmentedRateResult} (assets : 0 ≤ window.actualAssetsAtStart)
    (rate : 0 ≤ window.rateAtStart)
    (total : window.totalAssetsAtStart = computeUpdatedAssets window.actualAssetsAtStart
      window.rateAtStart (window.blockTimestampAtStart - window.lastUpdateAtStart))
    (amounts : ∀ event ∈ events, 0 ≤ event.payload.amount)
    (disciplined : Disciplined window.lastUpdateAtStart (sortBy compareSegmentEvents events))
    (accepted : integrateSegmentedRateWindow window events = .ok result) :
    0 ≤ result.integratedYpo ∧ 0 ≤ result.predictedPendingYieldAtEnd := by
  rw [integrateSegmentedRateWindow, integrateInOrder] at accepted
  split at accepted
  · cases accepted
  · rename_i ordered
    obtain ⟨final, run, rfl⟩ := map_eq_ok.mp accepted
    have sound := (RateState.Sound.initial assets rate total ordered).run
      (fun event mem => amounts event (mem_sortBy.mp mem)) disciplined run
    have reached : final.settledAt window ≤ window.blockTimestampAtEnd := by
      rw [RateWindow.Misordered, not_or, not_lt] at ordered
      exact max_le ordered.1 sound.update
    exact ⟨sound.yield_at reached, sound.pendingAt_nonneg sound.update⟩

/-- An accrual, and behind it in the same second a deposit and a new rate. -/
def settledEvents : List SavingsRateSegmentEvent :=
  [⟨1050, 3, .accrued 70⟩, ⟨1050, 4, .deposit 500⟩, ⟨1050, 6, .rateUpdated (2 * 10 ^ 24)⟩]

theorem integratedYpo_nonneg_settledEvents :
    ∃ result, integrateSegmentedRateWindow fiveMinutes settledEvents = .ok result ∧
      result.integratedYpo = 1063 ∧ 0 ≤ result.integratedYpo ∧
        0 ≤ result.predictedPendingYieldAtEnd := by
  have accepted : integrateSegmentedRateWindow fiveMinutes settledEvents
      = .ok ⟨1063, 61, 70, 9, 1012, 2582, 1570, 2 * 10 ^ 24, 1050⟩ := by decide
  exact ⟨_, accepted, rfl, @integratedYpo_nonneg fiveMinutes settledEvents _ (by decide)
    (by decide) (by decide) (by decide) (by decide) accepted⟩

/-! ## A new rate without an accrual -/

/-- What a charge is computed from. -/
structure RateBasis where
  actualAssets : ℤ
  rate : ℤ
  lastUpdate : ℤ
deriving DecidableEq, Repr

namespace RateBasis

/-- What an event makes of the basis. -/
def after (basis : RateBasis) (event : SavingsRateSegmentEvent) : RateBasis :=
  match event.payload with
  | .accrued interest =>
      { basis with
        actualAssets := basis.actualAssets + interest
        lastUpdate := event.timestamp }
  | .deposit assets => { basis with actualAssets := basis.actualAssets + assets }
  | .withdraw assets => { basis with actualAssets := basis.actualAssets - assets }
  | .rateUpdated newRate => { basis with rate := newRate }

/-- What the assets have become at a time. -/
def assetsAt (basis : RateBasis) (time : ℤ) : ℤ :=
  computeUpdatedAssets basis.actualAssets basis.rate (time - basis.lastUpdate)

/-- The first charge is the same from another time on as from the last update: at the first
accrual if there is one, else at the end of the window. -/
def SameCharge (window : RateWindow) (settled : ℤ) :
    RateBasis → List SavingsRateSegmentEvent → Prop
  | basis, [] =>
      ({ basis with lastUpdate := settled } : RateBasis).assetsAt window.blockTimestampAtEnd
        = basis.assetsAt window.blockTimestampAtEnd
  | basis, event :: events =>
      match event.payload with
      | .accrued _ =>
          ({ basis with lastUpdate := settled } : RateBasis).assetsAt event.timestamp
            = basis.assetsAt event.timestamp
      | _ => SameCharge window settled (basis.after event) events

end RateBasis

/-- The basis at the start of a window. -/
def RateWindow.basis (window : RateWindow) : RateBasis :=
  ⟨window.actualAssetsAtStart, window.rateAtStart, window.lastUpdateAtStart⟩

/-- What the vault itself stores. -/
def RateState.basis (state : RateState) : RateBasis :=
  ⟨state.actualAssets, state.rate, state.lastUpdate⟩

/-- The same state, charged from another time on. -/
def RateState.settled (state : RateState) (time : ℤ) : RateState :=
  { state with lastUpdate := time }

/-- The events are ordered by timestamp and log index. -/
def Ordered (events : List SavingsRateSegmentEvent) : Prop :=
  events.Pairwise fun a b =>
    a.timestamp < b.timestamp ∨ (a.timestamp = b.timestamp ∧ a.logIndex ≤ b.logIndex)

instance (events : List SavingsRateSegmentEvent) : Decidable (Ordered events) :=
  inferInstanceAs (Decidable (events.Pairwise _))

theorem Ordered.integrate {events : List SavingsRateSegmentEvent} (ordered : Ordered events)
    (window : RateWindow) :
    integrateSegmentedRateWindow window events = integrateInOrder window events := by
  rw [integrateSegmentedRateWindow, compareSegmentEvents, sortBy_lexCompare_eq_self ordered]

/-- The three figures that depend on when a charge begins. -/
def SegmentedRateResult.SameYield (a b : SegmentedRateResult) : Prop :=
  a.integratedYpo = b.integratedYpo ∧
    a.predictedPendingYieldAtEnd = b.predictedPendingYieldAtEnd ∧
    a.predictedTotalAssetsAtEnd = b.predictedTotalAssetsAtEnd

section Settled

variable {window : RateWindow} {state state' : RateState} {event : SavingsRateSegmentEvent}
  {time : ℤ}

/-- The basis depends on the events alone. -/
theorem rateStep_basis (step : rateStep window state event = .ok state') :
    state'.basis = state.basis.after event := by
  obtain ⟨-, move⟩ := rateMove_of_rateStep step
  cases move with
  | accrued interest predicted payload | deposit assets payload | withdraw assets payload
  | rateUpdated newRate payload =>
      rw [RateBasis.after, payload]
      rfl

theorem foldlM_basis {events : List SavingsRateSegmentEvent} :
    ∀ {state final : RateState}, events.foldlM (rateStep window) state = .ok final →
      final.basis = events.foldl RateBasis.after state.basis := by
  induction events with
  | nil =>
      intro state final run
      cases run
      rfl
  | cons event events ih =>
      intro state final run
      obtain ⟨next, first, rest⟩ := foldlM_cons_eq_ok.mp run
      rw [ih rest, rateStep_basis first]
      rfl

/-- What comes behind the time is behind both states. -/
theorem lt_settled_iff (earlier : state.lastUpdate ≤ time) (behind : time ≤ event.timestamp) :
    event.timestamp < (state.settled time).lastUpdate
      ↔ event.timestamp < state.lastUpdate := by
  show event.timestamp < time ↔ _
  omega

variable (window) in
/-- Behind the time, an event that is no accrual does not tell the two states apart. -/
theorem rateStep_settled (earlier : state.lastUpdate ≤ time) (behind : time ≤ event.timestamp)
    (quiet : ∀ interest, event.payload ≠ .accrued interest) :
    rateStep window (state.settled time) event
      = (rateStep window state event).map (·.settled time) := by
  simp only [rateStep, lt_settled_iff earlier behind]
  split
  · rfl
  · cases payload : event.payload with
    | accrued interest => exact absurd payload (quiet interest)
    | deposit assets => rfl
    | withdraw assets =>
        show (if assets > state.actualAssets then _ else _) = Except.map _ (if _ then _ else _)
        split <;> rfl
    | rateUpdated newRate => rfl

variable (window) in
/-- An accrual takes both states to the same one but for the totals. -/
theorem rateStep_settled_accrued {interest : ℤ} (payload : event.payload = .accrued interest)
    (earlier : state.lastUpdate ≤ time) (behind : time ≤ event.timestamp) :
    rateStep window (state.settled time) event
      = (rateStep window state event).map fun next =>
          next.add ((state.settled time).basis.assetsAt event.timestamp
              - state.basis.assetsAt event.timestamp)
            ((state.settled time).basis.assetsAt event.timestamp
              - state.basis.assetsAt event.timestamp) 0 := by
  simp only [rateStep, lt_settled_iff earlier behind, payload]
  split
  · rfl
  · simp only [Except.map, RateState.add, RateState.settled, RateState.basis,
      RateBasis.assetsAt, Except.ok.injEq, RateState.mk.injEq, true_and, zero_add, and_true]
    omega

/-- An event that is no accrual does not move the last update. -/
theorem rateStep_lastUpdate_quiet (step : rateStep window state event = .ok state')
    (quiet : ∀ interest, event.payload ≠ .accrued interest) :
    state'.lastUpdate = state.lastUpdate := by
  obtain ⟨-, move⟩ := rateMove_of_rateStep step
  cases move with
  | accrued interest predicted payload => exact absurd payload (quiet interest)
  | deposit | withdraw | rateUpdated => rfl

/-- The results of states that differ in the totals differ in the yield alone. -/
theorem result_add_sameYield_iff (difference predicted emitted : ℤ) :
    ((state.add difference predicted emitted).result window).SameYield (state.result window)
      ↔ difference = 0 := by
  simp only [SegmentedRateResult.SameYield, RateState.result, RateState.add, and_true]
  omega

variable (window) in
/-- **Charged from another time on.**  Behind the time a loop accepts and rejects the same
events, and its yield is the same exactly if the first charge is. -/
theorem foldlM_settled {events : List SavingsRateSegmentEvent} :
    ∀ {state : RateState}, state.lastUpdate ≤ time →
      (∀ event ∈ events, time ≤ event.timestamp) →
      (∀ e, events.foldlM (rateStep window) state = .error e →
        events.foldlM (rateStep window) (state.settled time) = .error e) ∧
      ∀ final, events.foldlM (rateStep window) state = .ok final →
        ∃ final', events.foldlM (rateStep window) (state.settled time) = .ok final' ∧
          ((final'.result window).SameYield (final.result window)
            ↔ state.basis.SameCharge window time events) := by
  induction events with
  | nil =>
      intro state earlier behind
      refine ⟨fun _ run => (by cases run), ?_⟩
      rintro final ⟨⟩
      refine ⟨state.settled time, rfl, ?_⟩
      simp only [SegmentedRateResult.SameYield, RateState.result, RateState.settled,
        RateBasis.SameCharge, RateBasis.assetsAt, RateState.basis]
      omega
  | cons event events ih =>
      intro state earlier behind
      have here := behind event List.mem_cons_self
      have later : ∀ event' ∈ events, time ≤ event'.timestamp :=
        fun event' mem => behind event' (List.mem_cons_of_mem _ mem)
      by_cases accrual : ∃ interest, event.payload = .accrued interest
      · obtain ⟨interest, payload⟩ := accrual
        have both := rateStep_settled_accrued window payload earlier here
        cases step : rateStep window state event with
        | error e =>
            rw [step] at both
            rw [foldlM_cons_error events step, foldlM_cons_error events both]
            exact ⟨fun e' run => run, fun final run => by cases run⟩
        | ok next =>
            rw [step] at both
            rw [foldlM_cons_ok events step, foldlM_cons_ok events both,
              foldlM_eq_map (rateStep_add window _ _ _) events]
            constructor
            · intro e run
              rw [run]
              rfl
            · intro final run
              rw [run]
              refine ⟨_, rfl, ?_⟩
              rw [result_add_sameYield_iff, RateBasis.SameCharge, payload, Int.sub_eq_zero]
              rfl
      · have quiet : ∀ interest, event.payload ≠ .accrued interest :=
          fun interest payload => accrual ⟨interest, payload⟩
        have both := rateStep_settled window earlier here quiet
        cases step : rateStep window state event with
        | error e =>
            rw [step] at both
            rw [foldlM_cons_error events step, foldlM_cons_error events both]
            exact ⟨fun e' run => run, fun final run => by cases run⟩
        | ok next =>
            rw [step] at both
            rw [foldlM_cons_ok events step, foldlM_cons_ok events both]
            have charge : state.basis.SameCharge window time (event :: events)
                ↔ next.basis.SameCharge window time events := by
              rw [rateStep_basis step, RateBasis.SameCharge]
              split
              · rename_i payload
                exact absurd payload (quiet _)
              · rfl
            have unmoved := rateStep_lastUpdate_quiet step quiet
            simp only [charge]
            exact ih (unmoved.trans_le earlier) later

variable (window time) in
/-- At rate zero an accrual of nothing settles, wherever a new rate is accepted. -/
theorem rateStep_accrued_zero (idle : state.rate = 0) (logIndex logIndex' newRate : ℤ) :
    rateStep window state ⟨time, logIndex, .accrued 0⟩
      = (rateStep window state ⟨time, logIndex', .rateUpdated newRate⟩).map
          fun _ => state.settled time := by
  simp only [rateStep]
  split
  · rfl
  · simp only [Except.map, idle, computeUpdatedAssets_rate_zero, sub_self, add_zero,
      RateState.settled]

end Settled

/-- **A new rate without an accrual.**  An accrual of nothing put in front of a new rate,
where the rate in force is zero, leaves a window rejected as it was; and it leaves the yield as
it was exactly if the first charge behind the new rate comes to the same from the time of the
new rate on as from the last update in force. -/
theorem rateUpdated_settled_iff {window : RateWindow} {front back : List SavingsRateSegmentEvent}
    {timestamp logIndex logIndex' newRate : ℤ}
    (ordered : Ordered (front ++ ⟨timestamp, logIndex, .accrued 0⟩
      :: ⟨timestamp, logIndex', .rateUpdated newRate⟩ :: back))
    (idle : (front.foldl RateBasis.after window.basis).rate = 0) :
    (∀ e, integrateSegmentedRateWindow window
        (front ++ ⟨timestamp, logIndex', .rateUpdated newRate⟩ :: back) = .error e →
      integrateSegmentedRateWindow window (front ++ ⟨timestamp, logIndex, .accrued 0⟩
        :: ⟨timestamp, logIndex', .rateUpdated newRate⟩ :: back) = .error e) ∧
    ∀ result, integrateSegmentedRateWindow window
        (front ++ ⟨timestamp, logIndex', .rateUpdated newRate⟩ :: back) = .ok result →
      ∃ result', integrateSegmentedRateWindow window (front ++ ⟨timestamp, logIndex, .accrued 0⟩
          :: ⟨timestamp, logIndex', .rateUpdated newRate⟩ :: back) = .ok result' ∧
        (result'.SameYield result ↔
          { front.foldl RateBasis.after window.basis with rate := newRate }.SameCharge window
            timestamp back) := by
  have shorter : Ordered (front ++ ⟨timestamp, logIndex', .rateUpdated newRate⟩ :: back) :=
    ordered.sublist ((List.sublist_cons_self _ _).append_left front)
  rw [ordered.integrate, shorter.integrate, integrateInOrder, integrateInOrder]
  by_cases misordered : window.Misordered
  · rw [if_pos misordered, if_pos misordered]
    exact ⟨fun e run => run, fun result run => by cases run⟩
  rw [if_neg misordered, if_neg misordered]
  cases reached : front.foldlM (rateStep window) window.initial with
  | error e =>
      rw [foldlM_append_error _ reached, foldlM_append_error _ reached]
      exact ⟨fun e run => run, fun result run => by cases run⟩
  | ok state =>
      have basis : state.basis = front.foldl RateBasis.after window.basis := foldlM_basis reached
      have settles := rateStep_accrued_zero window timestamp
        (show state.rate = 0 by rw [← idle, ← basis]; rfl) logIndex logIndex' newRate
      rw [foldlM_append_ok _ reached, foldlM_append_ok _ reached]
      cases step : rateStep window state ⟨timestamp, logIndex', .rateUpdated newRate⟩ with
      | error e =>
          rw [step] at settles
          rw [foldlM_cons_error _ step, foldlM_cons_error _ settles]
          exact ⟨fun e run => run, fun result run => by cases run⟩
      | ok next =>
          rw [step] at settles
          have earlier : state.lastUpdate ≤ timestamp :=
            (rateMove_of_rateStep step).1.2.2
          -- the new rate is taken over by both states
          have both : rateStep window (state.settled timestamp)
              ⟨timestamp, logIndex', .rateUpdated newRate⟩ = _ :=
            rateStep_settled window earlier le_rfl fun _ payload => by cases payload
          rw [step] at both
          rw [foldlM_cons_ok _ step, foldlM_cons_ok _ settles, foldlM_cons_ok _ both]
          have behind : ∀ event ∈ back, timestamp ≤ event.timestamp := by
            intro event mem
            have order := (List.pairwise_cons.mp (List.pairwise_append.mp shorter).2.1).1 event mem
            simp only at order
            omega
          have unmoved := rateStep_lastUpdate_quiet step (fun _ payload => by cases payload)
          obtain ⟨rejected, accepted⟩ :=
            foldlM_settled window (unmoved.trans_le earlier) behind
          have nextBasis : next.basis
              = { front.foldl RateBasis.after window.basis with rate := newRate } := by
            rw [rateStep_basis step, basis]
            rfl
          rw [← nextBasis]
          constructor
          · intro e run
            cases through : back.foldlM (rateStep window) next with
            | error e' =>
                rw [through] at run
                rw [rejected e' through]
                exact run
            | ok final =>
                rw [through] at run
                cases run
          · intro result run
            obtain ⟨final, through, rfl⟩ := map_eq_ok.mp run
            obtain ⟨final', through', same⟩ := accepted final through
            exact ⟨_, map_eq_ok.mpr ⟨final', through', rfl⟩, same⟩

/-- A new vault, without a rate before its first one is set. -/
def newVault : RateWindow := ⟨0, 0, 0, 1000, 1000, 1200⟩

/-- Half of the window has no rate, and is charged at the first one. -/
theorem rateUpdated_retroactive :
    let deposit : SavingsRateSegmentEvent := ⟨1050, 0, .deposit 1000⟩
    let accrual : SavingsRateSegmentEvent := ⟨1100, 4, .accrued 0⟩
    let update : SavingsRateSegmentEvent := ⟨1100, 5, .rateUpdated (10 ^ 24)⟩
    Ordered [deposit, accrual, update] ∧
      ([deposit].foldl RateBasis.after newVault.basis).rate = 0 ∧
      ∃ result result',
        integrateSegmentedRateWindow newVault [deposit, update] = .ok result ∧
        integrateSegmentedRateWindow newVault [deposit, accrual, update] = .ok result' ∧
        result.integratedYpo = 221 ∧ result'.integratedYpo = 105 ∧ ¬ result'.SameYield result :=
  ⟨by decide, rfl, ⟨221, 0, 0, 0, 221, 1221, 1000, 10 ^ 24, 1000⟩,
    ⟨105, 0, 0, 0, 105, 1105, 1000, 10 ^ 24, 1100⟩, by decide, by decide, rfl, rfl,
    fun same => by cases same.1⟩

theorem rateUpdated_settled_iff_newVault :
    ∃ result result',
      integrateSegmentedRateWindow newVault
        [⟨1050, 0, .deposit 1000⟩, ⟨1100, 5, .rateUpdated (10 ^ 24)⟩] = .ok result ∧
      integrateSegmentedRateWindow newVault
        [⟨1050, 0, .deposit 1000⟩, ⟨1100, 4, .accrued 0⟩, ⟨1100, 5, .rateUpdated (10 ^ 24)⟩]
          = .ok result' ∧
      (result'.SameYield result ↔
        RateBasis.SameCharge newVault 1100 ⟨1000, 10 ^ 24, 1000⟩ []) := by
  obtain ⟨-, accepted⟩ := @rateUpdated_settled_iff newVault [⟨1050, 0, .deposit 1000⟩] [] 1100 4 5
    (10 ^ 24) (by decide) rfl
  obtain ⟨result', settled, same⟩ := accepted ⟨221, 0, 0, 0, 221, 1221, 1000, 10 ^ 24, 1000⟩
    (by decide)
  exact ⟨_, result', by decide, settled, same⟩

end UsdpIndexer
