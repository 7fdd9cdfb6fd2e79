import Mathlib.Algebra.BigOperators.Group.List.Basic
import UsdpIndexer.Analytics.SegmentedRate

/-!
# Adjacent windows

Long ranges are published as the sum of adjacent intervals.  For the integration of
`UsdpIndexer.Analytics.SegmentedRate` this is right: a window that is cut in two, the
second part started from the result of the first, comes to the same result, and to the
same error, as the whole window (`integrateInOrder_cut`).  What the first part expects
to be pending at the cut is added by it and taken off again by the second part, so no
property of the accrual formula is needed.

The second half of the file says what an integration has added up: the assets at the
end are those at the start with all payments and all emitted interest
(`actualAssetsAtEnd_eq`), which goes with `integratedYpo_eq`.
-/

namespace UsdpIndexer

open StableOrder FailingFold

/-! ## Cutting a window -/

namespace RateWindow

/-- The part of a window up to a cut. -/
def upTo (window : RateWindow) (cut : ℤ) : RateWindow :=
  { window with blockTimestampAtEnd := cut }

/-- The part of a window behind a cut, started from what the first part came to. -/
def startedFrom (window : RateWindow) (cut : ℤ) (first : SegmentedRateResult) : RateWindow where
  actualAssetsAtStart := first.actualAssetsAtEnd
  totalAssetsAtStart := first.predictedTotalAssetsAtEnd
  rateAtStart := first.rateAtEnd
  lastUpdateAtStart := first.lastUpdateAtEnd
  blockTimestampAtStart := cut
  blockTimestampAtEnd := window.blockTimestampAtEnd

end RateWindow

/-- The results of two adjacent windows as one: the amounts add up, and the end is that
of the second. -/
def SegmentedRateResult.join (first second : SegmentedRateResult) : SegmentedRateResult :=
  { second with
    integratedYpo := first.integratedYpo + second.integratedYpo
    predictedAccruedInterest := first.predictedAccruedInterest + second.predictedAccruedInterest
    emittedAccruedInterest := first.emittedAccruedInterest + second.emittedAccruedInterest
    accruedVariance := first.accruedVariance + second.accruedVariance }

/-- Two results that end in the same state. -/
def SegmentedRateResult.SameEnd (result result' : SegmentedRateResult) : Prop :=
  result.actualAssetsAtEnd = result'.actualAssetsAtEnd ∧
    result.predictedTotalAssetsAtEnd = result'.predictedTotalAssetsAtEnd ∧
    result.predictedPendingYieldAtEnd = result'.predictedPendingYieldAtEnd ∧
    result.rateAtEnd = result'.rateAtEnd ∧ result.lastUpdateAtEnd = result'.lastUpdateAtEnd

/-- Running totals on top of those of a state. -/
def RateState.add (state : RateState) (ypo predicted emitted : ℤ) : RateState :=
  { state with
    integratedYpo := ypo + state.integratedYpo
    predictedAccruedInterest := predicted + state.predictedAccruedInterest
    emittedAccruedInterest := emitted + state.emittedAccruedInterest }

/-- The totals are carried along and decide nothing. -/
theorem rateStep_add (window : RateWindow) (ypo predicted emitted : ℤ) (state : RateState)
    (event : SavingsRateSegmentEvent) :
    rateStep window (state.add ypo predicted emitted) event
      = (rateStep window state event).map (·.add ypo predicted emitted) := by
  rw [rateStep, rateStep]
  show (if event.timestamp < window.blockTimestampAtStart ∨
    event.timestamp > window.blockTimestampAtEnd ∨ event.timestamp < state.lastUpdate
    then _ else _) = _
  split
  · rfl
  · cases event.payload with
    | accrued interest =>
        simp only [Except.map, RateState.add, Except.ok.injEq, RateState.mk.injEq,
          true_and]
        omega
    | deposit assets => rfl
    | withdraw assets =>
        show (if assets > state.actualAssets then _ else _) = Except.map _ (if _ then _ else _)
        split <;> rfl
    | rateUpdated newRate => rfl

section Cut

variable {window : RateWindow} {cut : ℤ}

/-- Up to the cut the first part does what the whole window does. -/
theorem rateStep_upTo (cutLe : cut ≤ window.blockTimestampAtEnd)
    {event : SavingsRateSegmentEvent} (before : event.timestamp ≤ cut) (state : RateState) :
    rateStep window state event = rateStep (window.upTo cut) state event := by
  have sameCheck :
      (event.timestamp < window.blockTimestampAtStart ∨
          event.timestamp > window.blockTimestampAtEnd ∨ event.timestamp < state.lastUpdate)
        ↔ (event.timestamp < (window.upTo cut).blockTimestampAtStart ∨
          event.timestamp > (window.upTo cut).blockTimestampAtEnd ∨
          event.timestamp < state.lastUpdate) := by
    simp only [RateWindow.upTo]
    omega
  simp only [rateStep, sameCheck]

/-- Behind the cut the second part does what the whole window does. -/
theorem rateStep_startedFrom (startLe : window.blockTimestampAtStart ≤ cut)
    {event : SavingsRateSegmentEvent} (after : cut < event.timestamp)
    (first : SegmentedRateResult) (state : RateState) :
    rateStep window state event = rateStep (window.startedFrom cut first) state event := by
  have sameCheck :
      (event.timestamp < window.blockTimestampAtStart ∨
          event.timestamp > window.blockTimestampAtEnd ∨ event.timestamp < state.lastUpdate)
        ↔ (event.timestamp < (window.startedFrom cut first).blockTimestampAtStart ∨
          event.timestamp > (window.startedFrom cut first).blockTimestampAtEnd ∨
          event.timestamp < state.lastUpdate) := by
    simp only [RateWindow.startedFrom]
    omega
  simp only [rateStep, sameCheck]

/-- A step does not take the last update beyond the window. -/
theorem rateStep_lastUpdate {state state' : RateState} {event : SavingsRateSegmentEvent}
    (step : rateStep window state event = .ok state')
    (before : state.lastUpdate ≤ window.blockTimestampAtEnd) :
    state'.lastUpdate ≤ window.blockTimestampAtEnd := by
  obtain ⟨⟨-, inside, -⟩, move⟩ := rateMove_of_rateStep step
  cases move with
  | accrued => exact inside
  | deposit | withdraw | rateUpdated => exact before

/-- **A cut changes nothing.**  The loop over a window is the loop over its first part,
followed by the loop over its second part from where the first has ended. -/
theorem integrateInOrder_cut (startLe : window.blockTimestampAtStart ≤ cut)
    (cutLe : cut ≤ window.blockTimestampAtEnd) {front back : List SavingsRateSegmentEvent}
    (before : ∀ event ∈ front, event.timestamp ≤ cut)
    (after : ∀ event ∈ back, cut < event.timestamp) :
    integrateInOrder window (front ++ back)
      = (integrateInOrder (window.upTo cut) front).bind fun first =>
          (integrateInOrder (window.startedFrom cut first) back).map first.join := by
  have sameCheck : window.Misordered ↔ (window.upTo cut).Misordered := by
    simp only [RateWindow.Misordered, RateWindow.upTo]
    omega
  by_cases misordered : window.Misordered
  · rw [integrateInOrder, if_pos misordered, integrateInOrder, if_pos (sameCheck.mp misordered)]
    rfl
  · rw [integrateInOrder, if_neg misordered, integrateInOrder,
      if_neg (sameCheck.not.mp misordered)]
    have frontLoop := foldlM_congr (fun event mem => rateStep_upTo cutLe (before event mem))
      window.initial
    show _ = ((front.foldlM (rateStep (window.upTo cut)) window.initial).map _).bind _
    cases run : front.foldlM (rateStep (window.upTo cut)) window.initial with
    | error e =>
        rw [run] at frontLoop
        rw [foldlM_append_error back frontLoop]
        rfl
    | ok middle =>
        rw [run] at frontLoop
        rw [foldlM_append_ok back frontLoop]
        set first := middle.result (window.upTo cut) with hfirst
        show _ = (integrateInOrder (window.startedFrom cut first) back).map _
        -- the second part starts in order, because the first one ends before the cut
        have ended : middle.lastUpdate ≤ cut :=
          ok_of_step (fun state : RateState => state.lastUpdate ≤ cut)
            (fun _ _ _ before step => rateStep_lastUpdate step before)
            (by simp only [RateWindow.Misordered, RateWindow.initial] at *; omega) run
        have ordered : ¬ (window.startedFrom cut first).Misordered := by
          simp only [RateWindow.Misordered, RateWindow.startedFrom, hfirst, RateState.result]
          omega
        -- and it starts without the totals of the first part
        have start : middle = ((window.startedFrom cut first).initial).add
            first.integratedYpo first.predictedAccruedInterest first.emittedAccruedInterest := by
          cases middle
          simp only [RateState.add, RateWindow.initial, RateWindow.startedFrom, hfirst,
            RateState.result, RateState.mk.injEq, add_zero, true_and, and_true]
          omega
        rw [integrateInOrder, if_neg ordered, ← foldlM_congr
          (fun event mem => rateStep_startedFrom startLe (after event mem) first)]
        conv_lhs => rw [start, foldlM_eq_map (rateStep_add window _ _ _) back]
        cases back.foldlM (rateStep window) (window.startedFrom cut first).initial with
        | error e => rfl
        | ok last =>
            show Except.ok _ = Except.ok _
            simp only [RateState.result, RateState.add, SegmentedRateResult.join, hfirst,
              RateWindow.startedFrom, Except.ok.injEq, SegmentedRateResult.mk.injEq, true_and,
              and_true]
            omega

end Cut

/-! ## The sum of two parts -/

/-- The events are strictly ordered by timestamp and log index. -/
def StrictlyOrdered (events : List SavingsRateSegmentEvent) : Prop :=
  events.Pairwise fun a b =>
    a.timestamp < b.timestamp ∨ (a.timestamp = b.timestamp ∧ a.logIndex < b.logIndex)

instance (events : List SavingsRateSegmentEvent) : Decidable (StrictlyOrdered events) :=
  inferInstanceAs (Decidable (events.Pairwise _))

/-- The sort leaves ordered events alone, and any selection of them. -/
theorem StrictlyOrdered.integrate_filter {events : List SavingsRateSegmentEvent}
    (ordered : StrictlyOrdered events) (window : RateWindow)
    (chosen : SavingsRateSegmentEvent → Bool) :
    integrateSegmentedRateWindow window (events.filter chosen)
      = integrateInOrder window (events.filter chosen) := by
  rw [integrateSegmentedRateWindow]
  congr 1
  apply sortBy_lexCompare_eq_self
  exact (ordered.filter chosen).imp fun order => by omega

theorem StrictlyOrdered.integrate {events : List SavingsRateSegmentEvent}
    (ordered : StrictlyOrdered events) (window : RateWindow) :
    integrateSegmentedRateWindow window events = integrateInOrder window events := by
  simpa using ordered.integrate_filter window fun _ => true

/-- The events up to a cut, and those behind it. -/
def eventsUpTo (cut : ℤ) (events : List SavingsRateSegmentEvent) :
    List SavingsRateSegmentEvent :=
  events.filter fun event => event.timestamp ≤ cut

/-- The events after a moment. -/
def eventsAfter (cut : ℤ) (events : List SavingsRateSegmentEvent) :
    List SavingsRateSegmentEvent :=
  events.filter fun event => cut < event.timestamp

theorem StrictlyOrdered.eventsUpTo_append_eventsAfter {events : List SavingsRateSegmentEvent}
    (ordered : StrictlyOrdered events) (cut : ℤ) :
    eventsUpTo cut events ++ eventsAfter cut events = events := by
  have notUpTo : eventsAfter cut events
      = events.filter fun event => !decide (event.timestamp ≤ cut) := by
    apply List.filter_congr
    intro event _
    rw [← decide_not, decide_eq_decide]
    omega
  rw [notUpTo]
  apply filter_append_filter_not
  apply ordered.imp
  intro a b order
  show decide _ = true → decide _ = true
  rw [decide_eq_true_iff, decide_eq_true_iff]
  omega

/-- Both parts at once. -/
theorem integrateSegmentedRateWindow_cut {window : RateWindow} {cut : ℤ}
    {events : List SavingsRateSegmentEvent} (ordered : StrictlyOrdered events)
    (startLe : window.blockTimestampAtStart ≤ cut) (cutLe : cut ≤ window.blockTimestampAtEnd) :
    integrateSegmentedRateWindow window events
      = (integrateSegmentedRateWindow (window.upTo cut) (eventsUpTo cut events)).bind
          fun first => (integrateSegmentedRateWindow (window.startedFrom cut first)
            (eventsAfter cut events)).map first.join := by
  have front : ∀ event ∈ eventsUpTo cut events, event.timestamp ≤ cut := by
    intro event mem
    simpa using (List.mem_filter.mp mem).2
  have back : ∀ event ∈ eventsAfter cut events, cut < event.timestamp := by
    intro event mem
    simpa using (List.mem_filter.mp mem).2
  rw [ordered.integrate, ← ordered.eventsUpTo_append_eventsAfter cut,
    integrateInOrder_cut startLe cutLe front back, ordered.eventsUpTo_append_eventsAfter cut,
    eventsUpTo, eventsAfter, ordered.integrate_filter]
  congr 1
  funext first
  rw [ordered.integrate_filter]

/-- **Windows add up.**  A window is integrated exactly if both of its parts are, the
second from where the first has ended; then the yield and both interests are the sums of
those of the parts, and the end is that of the second part. -/
theorem integrateSegmentedRateWindow_adjacent {window : RateWindow} {cut : ℤ}
    {events : List SavingsRateSegmentEvent} (ordered : StrictlyOrdered events)
    (startLe : window.blockTimestampAtStart ≤ cut) (cutLe : cut ≤ window.blockTimestampAtEnd) :
    ((∃ whole, integrateSegmentedRateWindow window events = .ok whole) ↔
      ∃ first, integrateSegmentedRateWindow (window.upTo cut) (eventsUpTo cut events)
          = .ok first ∧
        ∃ second, integrateSegmentedRateWindow (window.startedFrom cut first)
          (eventsAfter cut events) = .ok second) ∧
    ∀ whole first second, integrateSegmentedRateWindow window events = .ok whole →
      integrateSegmentedRateWindow (window.upTo cut) (eventsUpTo cut events) = .ok first →
      integrateSegmentedRateWindow (window.startedFrom cut first) (eventsAfter cut events)
        = .ok second →
      whole.integratedYpo = first.integratedYpo + second.integratedYpo ∧
        whole.predictedAccruedInterest
          = first.predictedAccruedInterest + second.predictedAccruedInterest ∧
        whole.emittedAccruedInterest
          = first.emittedAccruedInterest + second.emittedAccruedInterest ∧
        whole.SameEnd second := by
  rw [integrateSegmentedRateWindow_cut ordered startLe cutLe]
  constructor
  · constructor
    · rintro ⟨whole, run⟩
      obtain ⟨first, run, rest⟩ := bind_eq_ok.mp run
      obtain ⟨second, rest, -⟩ := map_eq_ok.mp rest
      exact ⟨first, run, second, rest⟩
    · rintro ⟨first, run, second, rest⟩
      exact ⟨first.join second, bind_eq_ok.mpr ⟨first, run, map_eq_ok.mpr ⟨second, rest, rfl⟩⟩⟩
  · intro whole first second run firstRun secondRun
    obtain ⟨first', firstRun', rest⟩ := bind_eq_ok.mp run
    rw [firstRun] at firstRun'
    cases firstRun'
    obtain ⟨second', secondRun', rfl⟩ := map_eq_ok.mp rest
    rw [secondRun] at secondRun'
    cases secondRun'
    exact ⟨rfl, rfl, rfl, rfl, rfl, rfl, rfl, rfl⟩

/-- Five minutes at a tenth of a percent a second, with one event of each kind. -/
def fiveMinutes : RateWindow := ⟨1000, 1010, 10 ^ 24, 990, 1000, 1300⟩

/-- The events. -/
def fiveMinuteEvents : List SavingsRateSegmentEvent :=
  [⟨1050, 3, .accrued 70⟩, ⟨1100, 0, .deposit 500⟩, ⟨1100, 1, .rateUpdated (2 * 10 ^ 24)⟩,
    ⟨1200, 0, .withdraw 300⟩]

theorem integrateSegmentedRateWindow_adjacent_fiveMinutes :
    ∃ whole first second,
      integrateSegmentedRateWindow fiveMinutes fiveMinuteEvents = .ok whole ∧
      integrateSegmentedRateWindow (fiveMinutes.upTo 1100) (eventsUpTo 1100 fiveMinuteEvents)
        = .ok first ∧
      integrateSegmentedRateWindow (fiveMinutes.startedFrom 1100 first)
        (eventsAfter 1100 fiveMinuteEvents) = .ok second ∧
      whole.integratedYpo = 870 ∧ first.integratedYpo = 215 ∧ second.integratedYpo = 655 ∧
      whole.integratedYpo = first.integratedYpo + second.integratedYpo ∧
      whole.SameEnd second := by
  obtain ⟨splits, sums⟩ := @integrateSegmentedRateWindow_adjacent fiveMinutes 1100
    fiveMinuteEvents (by decide) (by decide) (by decide)
  have whole : integrateSegmentedRateWindow fiveMinutes fiveMinuteEvents
      = .ok ⟨870, 61, 70, 9, 819, 2089, 1270, 2 * 10 ^ 24, 1050⟩ := by decide
  have first : integrateSegmentedRateWindow (fiveMinutes.upTo 1100)
      (eventsUpTo 1100 fiveMinuteEvents)
        = .ok ⟨215, 61, 70, 9, 164, 1734, 1570, 2 * 10 ^ 24, 1050⟩ := by decide
  obtain ⟨first', run, second, rest⟩ := splits.mp ⟨_, whole⟩
  rw [first] at run
  cases run
  obtain ⟨sum, -, -, same⟩ := sums _ _ _ whole first rest
  refine ⟨_, _, second, whole, first, rest, rfl, rfl, ?_, sum, same⟩
  simp only at sum
  omega

/-! ## What goes in and out -/

/-- What an event brings in, and what it takes out. -/
def SavingsRatePayload.deposited : SavingsRatePayload → ℤ
  | .deposit assets => assets
  | _ => 0

/-- What an event takes out. -/
def SavingsRatePayload.withdrawn : SavingsRatePayload → ℤ
  | .withdraw assets => assets
  | _ => 0

/-- What the events bring in. -/
def totalDeposits (events : List SavingsRateSegmentEvent) : ℤ :=
  (events.map fun event => event.payload.deposited).sum

/-- What the events take out. -/
def totalWithdrawals (events : List SavingsRateSegmentEvent) : ℤ :=
  (events.map fun event => event.payload.withdrawn).sum

/-- One event moves the assets by what it pays in or out and by the interest it emits. -/
theorem rateStep_actualAssets {window : RateWindow} {state state' : RateState}
    {event : SavingsRateSegmentEvent} (step : rateStep window state event = .ok state') :
    state'.actualAssets - state'.emittedAccruedInterest
      = state.actualAssets - state.emittedAccruedInterest
        + event.payload.deposited - event.payload.withdrawn := by
  obtain ⟨-, move⟩ := rateMove_of_rateStep step
  cases move with
  | accrued interest predicted payload | deposit assets payload | withdraw assets payload
  | rateUpdated newRate payload =>
      simp only [payload, SavingsRatePayload.deposited, SavingsRatePayload.withdrawn]
      omega

/-- **The assets at the end** are those at the start with everything that has gone in and
out, and with the emitted interest. -/
theorem actualAssetsAtEnd_eq {window : RateWindow} {events : List SavingsRateSegmentEvent}
    {result : SegmentedRateResult}
    (ok : integrateSegmentedRateWindow window events = .ok result) :
    result.actualAssetsAtEnd = window.actualAssetsAtStart + result.emittedAccruedInterest
      + totalDeposits events - totalWithdrawals events := by
  rw [integrateSegmentedRateWindow, integrateInOrder] at ok
  split at ok
  · cases ok
  · obtain ⟨state, run, rfl⟩ := map_eq_ok.mp ok
    have balance := ok_of_prefix
      (fun front (state : RateState) => state.actualAssets - state.emittedAccruedInterest
        = window.actualAssetsAtStart + totalDeposits front - totalWithdrawals front)
      (fun front state state' event before step => by
        have moved := rateStep_actualAssets step
        simp only [totalDeposits, totalWithdrawals, List.map_append, List.sum_append,
          List.map_singleton, List.sum_singleton] at before ⊢
        omega)
      (sortBy compareSegmentEvents events) []
      (by simp [RateWindow.initial, totalDeposits, totalWithdrawals]) run
    rw [List.nil_append] at balance
    -- the sums do not see the order
    have sorted := perm_sortBy compareSegmentEvents events
    have deposits : totalDeposits (sortBy compareSegmentEvents events) = totalDeposits events :=
      (sorted.map _).sum_eq
    have withdrawals :
        totalWithdrawals (sortBy compareSegmentEvents events) = totalWithdrawals events :=
      (sorted.map _).sum_eq
    show state.actualAssets = _ + state.emittedAccruedInterest + _ - _
    omega

end UsdpIndexer
