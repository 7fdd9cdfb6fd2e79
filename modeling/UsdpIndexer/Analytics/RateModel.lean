import Mathlib.Algebra.BigOperators.Group.List.Basic
import UsdpIndexer.Analytics.SegmentedRate

/-!
# The rate model

What the savings contract does with its assets between two snapshots: an accrual
books interest and starts the clock anew, a deposit and a withdrawal move the assets,
a rate change sets the rate, and in between the total grows by `computeUpdatedAssets`.
The events are taken as they come, which for both readers is the order of the chain.

Where a list of events leads is known without going through it: the assets are a sum,
the rate is the last one set, the clock was started by the last accrual
(`after_events`).  The loop of `integrateSegmentedRateWindow` follows the model
through the *sorted* events as long as it does not throw, and
`foldlM_rateStep_sorted_iff` says when it does not.
-/

namespace UsdpIndexer

open StableOrder FailingFold

/-! ## What events amount to -/

/-- What an event adds to the assets. -/
def SavingsRatePayload.assetChange : SavingsRatePayload → ℤ
  | .accrued interest => interest
  | .deposit assets => assets
  | .withdraw assets => -assets
  | .rateUpdated _ => 0

/-- The interest an event emits. -/
def SavingsRatePayload.interest : SavingsRatePayload → ℤ
  | .accrued interest => interest
  | .deposit _ | .withdraw _ | .rateUpdated _ => 0

/-- The rate an event sets, if it sets one. -/
def SavingsRateSegmentEvent.rateSet (event : SavingsRateSegmentEvent) : Option ℤ :=
  match event.payload with
  | .rateUpdated newRate => some newRate
  | .accrued _ | .deposit _ | .withdraw _ => none

/-- The time at which an event accrues, if it does. -/
def SavingsRateSegmentEvent.accruedAt (event : SavingsRateSegmentEvent) : Option ℤ :=
  match event.payload with
  | .accrued _ => some event.timestamp
  | .deposit _ | .withdraw _ | .rateUpdated _ => none

/-- What events add to the assets together. -/
def netAssets (events : List SavingsRateSegmentEvent) : ℤ :=
  (events.map fun event => event.payload.assetChange).sum

/-- The interest that events emit together. -/
def emittedInterest (events : List SavingsRateSegmentEvent) : ℤ :=
  (events.map fun event => event.payload.interest).sum

/-- The last rate that is set, from `rate` on. -/
def lastRate (rate : ℤ) (events : List SavingsRateSegmentEvent) : ℤ :=
  (events.filterMap (·.rateSet)).getLastD rate

/-- The time of the last accrual, from `lastUpdate` on. -/
def lastAccrual (lastUpdate : ℤ) (events : List SavingsRateSegmentEvent) : ℤ :=
  (events.filterMap (·.accruedAt)).getLastD lastUpdate

/-- The assets are never less than what is withdrawn, from `assets` on. -/
def WithdrawalsCovered (assets : ℤ) (events : List SavingsRateSegmentEvent) : Prop :=
  ∀ front event back withdrawn, events = front ++ event :: back →
    event.payload = .withdraw withdrawn → withdrawn ≤ assets + netAssets front

section Amounts

variable (event : SavingsRateSegmentEvent) (events : List SavingsRateSegmentEvent)

@[simp] theorem netAssets_nil : netAssets [] = 0 := rfl

@[simp] theorem netAssets_cons :
    netAssets (event :: events) = event.payload.assetChange + netAssets events := by
  simp [netAssets]

@[simp] theorem emittedInterest_nil : emittedInterest [] = 0 := rfl

@[simp] theorem emittedInterest_cons :
    emittedInterest (event :: events) = event.payload.interest + emittedInterest events := by
  simp [emittedInterest]

@[simp] theorem lastRate_nil (rate : ℤ) : lastRate rate [] = rate := rfl

@[simp] theorem lastRate_cons (rate : ℤ) :
    lastRate rate (event :: events) = lastRate (event.rateSet.getD rate) events := by
  cases set : event.rateSet <;>
    simp only [lastRate, List.filterMap_cons, set, List.getLastD_cons, Option.getD]

@[simp] theorem lastAccrual_nil (lastUpdate : ℤ) : lastAccrual lastUpdate [] = lastUpdate := rfl

@[simp] theorem lastAccrual_cons (lastUpdate : ℤ) :
    lastAccrual lastUpdate (event :: events)
      = lastAccrual (event.accruedAt.getD lastUpdate) events := by
  cases accrues : event.accruedAt <;>
    simp only [lastAccrual, List.filterMap_cons, accrues, List.getLastD_cons, Option.getD]

end Amounts

/-- The order does not matter to the sum. -/
theorem netAssets_sortBy (compare : SavingsRateSegmentEvent → SavingsRateSegmentEvent → ℤ)
    (events : List SavingsRateSegmentEvent) :
    netAssets (sortBy compare events) = netAssets events :=
  ((perm_sortBy compare events).map _).sum_eq

theorem emittedInterest_sortBy (compare : SavingsRateSegmentEvent → SavingsRateSegmentEvent → ℤ)
    (events : List SavingsRateSegmentEvent) :
    emittedInterest (sortBy compare events) = emittedInterest events :=
  ((perm_sortBy compare events).map _).sum_eq

theorem withdrawalsCovered_nil (assets : ℤ) : WithdrawalsCovered assets [] := by
  rintro front event back withdrawn split
  simp at split

/-- Withdrawals are covered one after the other. -/
theorem withdrawalsCovered_cons {assets : ℤ} {event : SavingsRateSegmentEvent}
    {events : List SavingsRateSegmentEvent} :
    WithdrawalsCovered assets (event :: events) ↔
      (∀ withdrawn, event.payload = .withdraw withdrawn → withdrawn ≤ assets) ∧
        WithdrawalsCovered (assets + event.payload.assetChange) events := by
  constructor
  · intro covered
    constructor
    · intro withdrawn payload
      simpa using covered [] event events withdrawn rfl payload
    · rintro front other back withdrawn rfl payload
      have := covered (event :: front) other back withdrawn rfl payload
      rw [netAssets_cons] at this
      omega
  · rintro ⟨first, rest⟩ front other back withdrawn split payload
    cases front with
    | nil =>
        obtain ⟨rfl, -⟩ := List.cons_eq_cons.mp split
        simpa using first withdrawn payload
    | cons head front =>
        obtain ⟨rfl, later⟩ := List.cons_eq_cons.mp split
        have := rest front other back withdrawn later payload
        rw [netAssets_cons]
        omega

/-! ## The model -/

/-- The vault as the rate model has it. -/
structure RateModel where
  actualAssets : ℤ
  rate : ℤ
  lastUpdate : ℤ
deriving DecidableEq, Repr

namespace RateModel

/-- The total at a moment: the assets and what they have yielded since the last update. -/
def totalAssets (model : RateModel) (timestamp : ℤ) : ℤ :=
  computeUpdatedAssets model.actualAssets model.rate (timestamp - model.lastUpdate)

/-- What an event does to the vault. -/
def after (model : RateModel) (event : SavingsRateSegmentEvent) : RateModel :=
  match event.payload with
  | .accrued interest =>
      { model with actualAssets := model.actualAssets + interest, lastUpdate := event.timestamp }
  | .deposit assets => { model with actualAssets := model.actualAssets + assets }
  | .withdraw assets => { model with actualAssets := model.actualAssets - assets }
  | .rateUpdated newRate => { model with rate := newRate }

/-- **Where one event leads.** -/
theorem after_eq (model : RateModel) (event : SavingsRateSegmentEvent) :
    model.after event = ⟨model.actualAssets + event.payload.assetChange,
      event.rateSet.getD model.rate, event.accruedAt.getD model.lastUpdate⟩ := by
  rw [after, SavingsRateSegmentEvent.rateSet, SavingsRateSegmentEvent.accruedAt]
  cases event.payload with
  | accrued interest => rfl
  | deposit assets => rfl
  | withdraw assets => rfl
  | rateUpdated newRate => simp [SavingsRatePayload.assetChange]

/-- **Where a list of events leads.** -/
theorem after_events (model : RateModel) (events : List SavingsRateSegmentEvent) :
    events.foldl after model = ⟨model.actualAssets + netAssets events,
      lastRate model.rate events, lastAccrual model.lastUpdate events⟩ := by
  induction events generalizing model with
  | nil => simp
  | cons event events ih =>
      rw [List.foldl_cons, ih, after_eq]
      simp [add_assoc]

end RateModel

/-! ## The loop follows the model -/

/-- The part of the loop's state that the model knows. -/
def RateState.model (state : RateState) : RateModel :=
  ⟨state.actualAssets, state.rate, state.lastUpdate⟩

/-- An event is accepted: it lies in the window and not before the last update, and the
assets cover what it withdraws. -/
structure RateState.Accepts (window : RateWindow) (state : RateState)
    (event : SavingsRateSegmentEvent) : Prop where
  inside : window.blockTimestampAtStart ≤ event.timestamp ∧
    event.timestamp ≤ window.blockTimestampAtEnd
  notBefore : state.lastUpdate ≤ event.timestamp
  covered : ∀ withdrawn, event.payload = .withdraw withdrawn → withdrawn ≤ state.actualAssets

/-- A turn of the loop goes through exactly for an accepted event. -/
theorem exists_rateStep_iff {window : RateWindow} {state : RateState}
    {event : SavingsRateSegmentEvent} :
    (∃ state', rateStep window state event = .ok state') ↔ state.Accepts window event := by
  constructor
  · rintro ⟨state', step⟩
    obtain ⟨⟨start, stop, notBefore⟩, move⟩ := rateMove_of_rateStep step
    refine ⟨⟨start, stop⟩, notBefore, fun withdrawn payload => ?_⟩
    cases move with
    | withdraw assets payload' enough =>
        rw [payload'] at payload
        cases payload
        exact enough
    | accrued interest predicted payload' => rw [payload'] at payload; cases payload
    | deposit assets payload' => rw [payload'] at payload; cases payload
    | rateUpdated newRate payload' => rw [payload'] at payload; cases payload
  · rintro ⟨⟨start, stop⟩, notBefore, covered⟩
    rw [rateStep, if_neg (by omega)]
    cases payload : event.payload with
    | accrued interest => exact ⟨_, rfl⟩
    | deposit assets => exact ⟨_, rfl⟩
    | withdraw assets =>
        simp only
        rw [if_neg (not_lt.mpr (covered assets payload))]
        exact ⟨_, rfl⟩
    | rateUpdated newRate => exact ⟨_, rfl⟩

/-- A turn of the loop moves the state as the model has it, and books the interest. -/
theorem rateStep_model {window : RateWindow} {state state' : RateState}
    {event : SavingsRateSegmentEvent} (step : rateStep window state event = .ok state') :
    state'.model = state.model.after event ∧
      state'.emittedAccruedInterest
        = state.emittedAccruedInterest + event.payload.interest := by
  obtain ⟨-, move⟩ := rateMove_of_rateStep step
  cases move with
  | accrued interest predicted payload =>
      simp [RateState.model, RateModel.after, SavingsRatePayload.interest, payload]
  | deposit assets payload =>
      simp [RateState.model, RateModel.after, SavingsRatePayload.interest, payload]
  | withdraw assets payload =>
      simp [RateState.model, RateModel.after, SavingsRatePayload.interest, payload]
  | rateUpdated newRate payload =>
      simp [RateState.model, RateModel.after, SavingsRatePayload.interest, payload]

/-- **The loop follows the model** through the events it has consumed. -/
theorem foldlM_rateStep_model {window : RateWindow} {events : List SavingsRateSegmentEvent}
    {state state' : RateState} (run : events.foldlM (rateStep window) state = .ok state') :
    state'.model = events.foldl RateModel.after state.model ∧
      state'.emittedAccruedInterest
        = state.emittedAccruedInterest + emittedInterest events := by
  induction events generalizing state with
  | nil =>
      cases run
      simp
  | cons event events ih =>
      obtain ⟨middle, step, rest⟩ := foldlM_cons_eq_ok.mp run
      obtain ⟨model, interest⟩ := rateStep_model step
      obtain ⟨model', interest'⟩ := ih rest
      refine ⟨by rw [model', model, List.foldl_cons], ?_⟩
      rw [interest', interest, emittedInterest_cons]
      omega

/-- **When the loop goes through** a list in the order of time: the events lie in the
window and the withdrawals are covered.  No event is before the last update then, which
is the start of the window or an earlier event. -/
theorem foldlM_rateStep_sorted_iff {window : RateWindow}
    {events : List SavingsRateSegmentEvent} {state : RateState}
    (sorted : events.Pairwise fun a b => a.timestamp ≤ b.timestamp)
    (notBefore : ∀ event ∈ events, window.blockTimestampAtStart ≤ event.timestamp →
      state.lastUpdate ≤ event.timestamp) :
    (∃ state', events.foldlM (rateStep window) state = .ok state') ↔
      (∀ event ∈ events, window.blockTimestampAtStart ≤ event.timestamp ∧
        event.timestamp ≤ window.blockTimestampAtEnd) ∧
      WithdrawalsCovered state.actualAssets events := by
  induction events generalizing state with
  | nil =>
      refine iff_of_true ⟨state, rfl⟩ ⟨by simp, withdrawalsCovered_nil _⟩
  | cons event events ih =>
      obtain ⟨first, sorted⟩ := List.pairwise_cons.mp sorted
      -- what one turn leaves for the rest of the list
      have next {middle : RateState} (step : rateStep window state event = .ok middle) :
          (∃ state', events.foldlM (rateStep window) middle = .ok state') ↔
            (∀ event ∈ events, window.blockTimestampAtStart ≤ event.timestamp ∧
              event.timestamp ≤ window.blockTimestampAtEnd) ∧
            WithdrawalsCovered (state.actualAssets + event.payload.assetChange) events := by
        have model := (rateStep_model step).1
        rw [RateModel.after_eq] at model
        have actual : middle.actualAssets = state.actualAssets + event.payload.assetChange :=
          congrArg RateModel.actualAssets model
        have updated : middle.lastUpdate = event.accruedAt.getD state.lastUpdate :=
          congrArg RateModel.lastUpdate model
        rw [ih sorted, actual]
        intro other mem inside
        rw [updated, SavingsRateSegmentEvent.accruedAt]
        split
        · exact first other mem
        all_goals exact notBefore other (List.mem_cons_of_mem _ mem) inside
      rw [withdrawalsCovered_cons, List.forall_mem_cons]
      constructor
      · rintro ⟨state', run⟩
        obtain ⟨middle, step, rest⟩ := foldlM_cons_eq_ok.mp run
        obtain ⟨inside, -, covered⟩ := exists_rateStep_iff.mp ⟨middle, step⟩
        obtain ⟨insides, covereds⟩ := (next step).mp ⟨state', rest⟩
        exact ⟨⟨inside, insides⟩, covered, covereds⟩
      · rintro ⟨⟨inside, insides⟩, covered, covereds⟩
        have accepts : state.Accepts window event :=
          ⟨inside, notBefore event List.mem_cons_self inside.1, covered⟩
        obtain ⟨middle, step⟩ := exists_rateStep_iff.mpr accepts
        obtain ⟨state', rest⟩ := (next step).mpr ⟨insides, covereds⟩
        exact ⟨state', foldlM_cons_eq_ok.mpr ⟨middle, step, rest⟩⟩

/-- The sort puts the events in the order of time. -/
theorem pairwise_timestamp_sorted (events : List SavingsRateSegmentEvent) :
    (sortBy compareSegmentEvents events).Pairwise fun a b => a.timestamp ≤ b.timestamp := by
  refine (pairwise_sortBy ordersBy_compareSegmentEvents events).imp ?_
  intro a b le
  rw [Prod.Lex.toLex_le_toLex] at le
  simp only at le
  omega

/-! ## The integration, without going through the events -/

/-- A window takes a list of events: its times are in order, the events lie in it, and in
the order of the sort the withdrawals are covered. -/
structure RateWindow.Admits (window : RateWindow) (events : List SavingsRateSegmentEvent) :
    Prop where
  lastUpdate : window.lastUpdateAtStart ≤ window.blockTimestampAtStart
  times : window.blockTimestampAtStart ≤ window.blockTimestampAtEnd
  inside : ∀ event ∈ events, window.blockTimestampAtStart ≤ event.timestamp ∧
    event.timestamp ≤ window.blockTimestampAtEnd
  covered : WithdrawalsCovered window.actualAssetsAtStart (sortBy compareSegmentEvents events)

/-- **When the integration returns a result.** -/
theorem exists_integrateSegmentedRateWindow_iff {window : RateWindow}
    {events : List SavingsRateSegmentEvent} :
    (∃ result, integrateSegmentedRateWindow window events = .ok result) ↔
      window.Admits events := by
  have through (lastUpdate : window.lastUpdateAtStart ≤ window.blockTimestampAtStart) :=
    @foldlM_rateStep_sorted_iff window _ window.initial (pairwise_timestamp_sorted events)
      fun _ _ inside => lastUpdate.trans inside
  simp only [mem_sortBy] at through
  rw [integrateSegmentedRateWindow, integrateInOrder]
  split
  · rename_i misordered
    apply iff_of_false (by simp)
    rintro ⟨lastUpdate, times, -, -⟩
    rw [RateWindow.Misordered] at misordered
    omega
  · rename_i ordered
    rw [RateWindow.Misordered] at ordered
    have lastUpdate : window.lastUpdateAtStart ≤ window.blockTimestampAtStart := by omega
    constructor
    · rintro ⟨result, run⟩
      obtain ⟨state, run, -⟩ := map_eq_ok.mp run
      obtain ⟨inside, covered⟩ := (through lastUpdate).mp ⟨state, run⟩
      exact ⟨lastUpdate, by omega, inside, covered⟩
    · rintro ⟨-, -, inside, covered⟩
      obtain ⟨state, run⟩ := (through lastUpdate).mpr ⟨inside, covered⟩
      exact ⟨_, map_eq_ok.mpr ⟨state, run, rfl⟩⟩

/-- **What the integration returns**: the assets are the sum, the rate is the last one in
the order of the sort, and the total is what has grown since the last accrual. -/
theorem integrateSegmentedRateWindow_arrives {window : RateWindow}
    {events : List SavingsRateSegmentEvent} {result : SegmentedRateResult}
    (run : integrateSegmentedRateWindow window events = .ok result) :
    result.actualAssetsAtEnd = window.actualAssetsAtStart + netAssets events ∧
      result.rateAtEnd = lastRate window.rateAtStart (sortBy compareSegmentEvents events) ∧
      result.emittedAccruedInterest = emittedInterest events ∧
      result.predictedTotalAssetsAtEnd = computeUpdatedAssets result.actualAssetsAtEnd
        result.rateAtEnd (window.blockTimestampAtEnd
          - lastAccrual window.lastUpdateAtStart (sortBy compareSegmentEvents events)) := by
  rw [integrateSegmentedRateWindow, integrateInOrder] at run
  split at run
  · cases run
  · obtain ⟨state, through, rfl⟩ := map_eq_ok.mp run
    obtain ⟨model, interest⟩ := foldlM_rateStep_model through
    rw [RateModel.after_events, netAssets_sortBy] at model
    rw [emittedInterest_sortBy] at interest
    obtain ⟨actual, rate, lastUpdate⟩ := RateModel.mk.inj model
    refine ⟨actual, rate, interest.trans (zero_add _), ?_⟩
    simp only [RateState.result, lastUpdate]
    rfl

end UsdpIndexer
