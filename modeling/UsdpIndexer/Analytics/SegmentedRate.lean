import UsdpIndexer.Library.FailingFold
import UsdpIndexer.Library.StableOrder
import UsdpIndexer.Protocol.SavingsMath
import UsdpIndexer.Rpc.Errors

/-!
# Integrating a rate over its segments

`integrateSegmentedRateWindow` of `analytics/yield-reconciliation.ts`: the events
of a window are sorted by timestamp and log index and then consumed one by one.

Both readers hand the events over in chain order, by block and log index, but
an event no longer carries its block number when it is sorted.  On a chain where
several blocks share a timestamp the sort can therefore put an event of a later
block in front of one of an earlier block.  `integrateInOrder` is the same loop
without the sort, and `integrateSegmentedRateWindow_eq_inOrder_iff` says for which
positions the two always agree: where the log indices do not descend within a
timestamp.
-/

namespace UsdpIndexer

open StableOrder FailingFold

/-- What an event does to the vault. -/
inductive SavingsRatePayload
  | accrued (interest : ℤ)
  | deposit (assets : ℤ)
  | withdraw (assets : ℤ)
  | rateUpdated (newRate : ℤ)
deriving DecidableEq, Repr

/-- An event of the vault with its time and its index in its block. -/
structure SavingsRateSegmentEvent where
  timestamp : ℤ
  logIndex : ℤ
  payload : SavingsRatePayload
deriving DecidableEq, Repr

/-- The input but for the events. -/
structure RateWindow where
  actualAssetsAtStart : ℤ
  totalAssetsAtStart : ℤ
  rateAtStart : ℤ
  lastUpdateAtStart : ℤ
  blockTimestampAtStart : ℤ
  blockTimestampAtEnd : ℤ
deriving DecidableEq, Repr

/-- The variables of the loop. -/
structure RateState where
  actualAssets : ℤ
  rate : ℤ
  lastUpdate : ℤ
  integratedYpo : ℤ
  predictedAccruedInterest : ℤ
  emittedAccruedInterest : ℤ
deriving DecidableEq, Repr

/-- What the integration returns. -/
structure SegmentedRateResult where
  integratedYpo : ℤ
  predictedAccruedInterest : ℤ
  emittedAccruedInterest : ℤ
  accruedVariance : ℤ
  predictedPendingYieldAtEnd : ℤ
  predictedTotalAssetsAtEnd : ℤ
  actualAssetsAtEnd : ℤ
  rateAtEnd : ℤ
  lastUpdateAtEnd : ℤ
deriving DecidableEq, Repr

/-! ## The loop -/

/-- The state at the start, where what is pending already is not earned in the window. -/
def RateWindow.initial (window : RateWindow) : RateState where
  actualAssets := window.actualAssetsAtStart
  rate := window.rateAtStart
  lastUpdate := window.lastUpdateAtStart
  integratedYpo := -(window.totalAssetsAtStart - window.actualAssetsAtStart)
  predictedAccruedInterest := 0
  emittedAccruedInterest := 0

/-- One turn of the loop. -/
def rateStep (window : RateWindow) (state : RateState) (event : SavingsRateSegmentEvent) :
    Except JsError RateState :=
  if event.timestamp < window.blockTimestampAtStart ∨
      event.timestamp > window.blockTimestampAtEnd ∨ event.timestamp < state.lastUpdate then
    .error ⟨"Segmented-rate event is outside ordered boundaries"⟩
  else
    match event.payload with
    | .accrued interest =>
        let predictedAssets :=
          computeUpdatedAssets state.actualAssets state.rate (event.timestamp - state.lastUpdate)
        let predictedInterest := predictedAssets - state.actualAssets
        -- the yield takes the predicted interest, the assets the emitted one
        .ok { state with
          predictedAccruedInterest := state.predictedAccruedInterest + predictedInterest
          emittedAccruedInterest := state.emittedAccruedInterest + interest
          integratedYpo := state.integratedYpo + predictedInterest
          actualAssets := state.actualAssets + interest
          lastUpdate := event.timestamp }
    | .deposit assets => .ok { state with actualAssets := state.actualAssets + assets }
    | .withdraw assets =>
        if assets > state.actualAssets then
          .error ⟨"Segmented-rate withdrawal exceeds actual assets"⟩
        else .ok { state with actualAssets := state.actualAssets - assets }
    | .rateUpdated newRate => .ok { state with rate := newRate }

/-- What is returned after the loop. -/
def RateState.result (window : RateWindow) (state : RateState) : SegmentedRateResult :=
  let predictedTotalAssetsAtEnd := computeUpdatedAssets state.actualAssets state.rate
    (window.blockTimestampAtEnd - state.lastUpdate)
  let predictedPendingYieldAtEnd := predictedTotalAssetsAtEnd - state.actualAssets
  { integratedYpo := state.integratedYpo + predictedPendingYieldAtEnd
    predictedAccruedInterest := state.predictedAccruedInterest
    emittedAccruedInterest := state.emittedAccruedInterest
    accruedVariance := state.emittedAccruedInterest - state.predictedAccruedInterest
    predictedPendingYieldAtEnd := predictedPendingYieldAtEnd
    predictedTotalAssetsAtEnd := predictedTotalAssetsAtEnd
    actualAssetsAtEnd := state.actualAssets
    rateAtEnd := state.rate
    lastUpdateAtEnd := state.lastUpdate }

/-- The boundary check at the head of the function. -/
def RateWindow.Misordered (window : RateWindow) : Prop :=
  window.blockTimestampAtEnd < window.blockTimestampAtStart ∨
    window.lastUpdateAtStart > window.blockTimestampAtStart

instance (window : RateWindow) : Decidable window.Misordered :=
  inferInstanceAs (Decidable (_ ∨ _))

/-- The function without its sort: the loop over the events as they come. -/
def integrateInOrder (window : RateWindow) (events : List SavingsRateSegmentEvent) :
    Except JsError SegmentedRateResult :=
  if window.Misordered then .error ⟨"Invalid segmented-rate boundary ordering"⟩
  else (events.foldlM (rateStep window) window.initial).map (RateState.result window)

/-- The comparator of the sort. -/
def compareSegmentEvents : SavingsRateSegmentEvent → SavingsRateSegmentEvent → ℤ :=
  lexCompare (·.timestamp) (·.logIndex)

theorem ordersBy_compareSegmentEvents :
    OrdersBy compareSegmentEvents fun event => toLex (event.timestamp, event.logIndex) :=
  ordersBy_lexCompare _ _

/-- The integration takes the events in the order of the sort. -/
def integrateSegmentedRateWindow (window : RateWindow) (events : List SavingsRateSegmentEvent) :
    Except JsError SegmentedRateResult :=
  integrateInOrder window (sortBy compareSegmentEvents events)

/-- What an accepted event makes of the state. -/
inductive RateMove (state : RateState) (event : SavingsRateSegmentEvent) : RateState → Prop
  | accrued (interest predicted : ℤ) (payload : event.payload = .accrued interest)
      (charged : predicted = computeUpdatedAssets state.actualAssets state.rate
        (event.timestamp - state.lastUpdate) - state.actualAssets) :
      RateMove state event
        { state with
          predictedAccruedInterest := state.predictedAccruedInterest + predicted
          emittedAccruedInterest := state.emittedAccruedInterest + interest
          integratedYpo := state.integratedYpo + predicted
          actualAssets := state.actualAssets + interest
          lastUpdate := event.timestamp }
  | deposit (assets : ℤ) (payload : event.payload = .deposit assets) :
      RateMove state event { state with actualAssets := state.actualAssets + assets }
  | withdraw (assets : ℤ) (payload : event.payload = .withdraw assets)
      (enough : assets ≤ state.actualAssets) :
      RateMove state event { state with actualAssets := state.actualAssets - assets }
  | rateUpdated (newRate : ℤ) (payload : event.payload = .rateUpdated newRate) :
      RateMove state event { state with rate := newRate }

/-- **An accepted event** lies in the window and not before the last update, and moves the
state. -/
theorem rateMove_of_rateStep {window : RateWindow} {state state' : RateState}
    {event : SavingsRateSegmentEvent} (step : rateStep window state event = .ok state') :
    (window.blockTimestampAtStart ≤ event.timestamp ∧
        event.timestamp ≤ window.blockTimestampAtEnd ∧ state.lastUpdate ≤ event.timestamp) ∧
      RateMove state event state' := by
  unfold rateStep at step
  split at step
  · cases step
  · refine ⟨by omega, ?_⟩
    split at step
    · rename_i interest payload
      cases step
      exact .accrued interest _ payload rfl
    · rename_i assets payload
      cases step
      exact .deposit assets payload
    · rename_i assets payload
      split at step
      · cases step
      · rename_i enough
        cases step
        exact .withdraw assets payload (not_lt.mp enough)
    · rename_i newRate payload
      cases step
      exact .rateUpdated newRate payload

/-- The running total is the predicted interest, less what was pending at the start. -/
theorem rateStep_integratedYpo {window : RateWindow} {state state' : RateState}
    {event : SavingsRateSegmentEvent} (step : rateStep window state event = .ok state') :
    state'.integratedYpo - state'.predictedAccruedInterest
      = state.integratedYpo - state.predictedAccruedInterest := by
  obtain ⟨-, move⟩ := rateMove_of_rateStep step
  cases move with
  | accrued interest predicted =>
      simp only
      omega
  | deposit | withdraw | rateUpdated => rfl

/-- What an integration has added up: the predicted interest, and what is pending at
the end over what was pending at the start. -/
theorem integratedYpo_eq {window : RateWindow} {events : List SavingsRateSegmentEvent}
    {result : SegmentedRateResult}
    (ok : integrateSegmentedRateWindow window events = .ok result) :
    result.integratedYpo = result.predictedAccruedInterest
      + (result.predictedTotalAssetsAtEnd - result.actualAssetsAtEnd)
      - (window.totalAssetsAtStart - window.actualAssetsAtStart) := by
  rw [integrateSegmentedRateWindow, integrateInOrder] at ok
  split at ok
  · cases ok
  · obtain ⟨state, run, rfl⟩ := map_eq_ok.mp ok
    have total := ok_of_step (fun state : RateState =>
        state.integratedYpo - state.predictedAccruedInterest
          = -(window.totalAssetsAtStart - window.actualAssetsAtStart))
      (fun _ _ _ before step => (rateStep_integratedYpo step).trans before)
      (by simp [RateWindow.initial]) run
    simp only [RateState.result]
    omega

/-! ## Chain order -/

/-- Where an event is on the chain. -/
structure EventPosition where
  blockNumber : ℤ
  timestamp : ℤ
  logIndex : ℤ
deriving DecidableEq, Repr

/-- The positions of a list of events as the readers return it: ascending by block
and log index; a block has one timestamp, and later blocks have no earlier one. -/
def ChainOrdered (positions : List EventPosition) : Prop :=
  positions.Pairwise fun a b =>
    (a.blockNumber < b.blockNumber ∧ a.timestamp ≤ b.timestamp) ∨
      (a.blockNumber = b.blockNumber ∧ a.timestamp = b.timestamp ∧ a.logIndex < b.logIndex)

instance (positions : List EventPosition) : Decidable (ChainOrdered positions) :=
  inferInstanceAs (Decidable (positions.Pairwise _))

/-- The log indices do not descend within a timestamp. -/
def IndexAscending (positions : List EventPosition) : Prop :=
  positions.Pairwise fun a b => a.timestamp = b.timestamp → a.logIndex ≤ b.logIndex

instance (positions : List EventPosition) : Decidable (IndexAscending positions) :=
  inferInstanceAs (Decidable (positions.Pairwise _))

/-- An event at a position. -/
def EventPosition.event (position : EventPosition) (payload : SavingsRatePayload) :
    SavingsRateSegmentEvent := ⟨position.timestamp, position.logIndex, payload⟩

/-- The events of a list of positions with their payloads. -/
def segmentEvents (log : List (EventPosition × SavingsRatePayload)) :
    List SavingsRateSegmentEvent :=
  log.map fun entry => entry.1.event entry.2

theorem ChainOrdered.timestamp_le {positions : List EventPosition}
    (ordered : ChainOrdered positions) :
    positions.Pairwise fun a b => a.timestamp ≤ b.timestamp :=
  ordered.imp fun order => by omega

/-- Where the log indices do not descend within a timestamp, the sort does nothing. -/
theorem sortBy_segmentEvents_eq_self {log : List (EventPosition × SavingsRatePayload)}
    (ordered : ChainOrdered (log.map Prod.fst)) (ascending : IndexAscending (log.map Prod.fst)) :
    sortBy compareSegmentEvents (segmentEvents log) = segmentEvents log := by
  apply sortBy_lexCompare_eq_self
  have both := ordered.timestamp_le.and ascending
  rw [List.pairwise_map] at both
  rw [segmentEvents, List.pairwise_map]
  apply both.imp
  rintro ⟨a, _⟩ ⟨b, _⟩ ⟨le, index⟩
  show a.timestamp < b.timestamp ∨ (a.timestamp = b.timestamp ∧ a.logIndex ≤ b.logIndex)
  by_cases equal : a.timestamp = b.timestamp
  · exact .inr ⟨equal, index equal⟩
  · exact .inl (lt_of_le_of_ne le equal)

/-! ### An inversion shows

A deposit of 1 in front of a withdrawal of 1, into an empty vault, and nothing
else happens: in chain order this is fine, and with the two exchanged the
withdrawal fails. -/

/-- An event that changes nothing where the rate is zero. -/
def quiet (position : EventPosition) : EventPosition × SavingsRatePayload :=
  (position, .rateUpdated 0)

/-- An empty vault at rate zero. -/
def emptyWindow (start stop : ℤ) : RateWindow := ⟨0, 0, 0, start, start, stop⟩

/-- The state with these assets, at rate zero. -/
def emptyState (start assets : ℤ) : RateState := ⟨assets, 0, start, 0, 0, 0⟩

section EmptyVault

variable {start stop assets : ℤ}

theorem not_misordered_emptyWindow (le : start ≤ stop) :
    ¬ (emptyWindow start stop).Misordered := by
  simp only [RateWindow.Misordered, emptyWindow]
  omega

/-- The boundary check of the loop lets an event of the window through. -/
theorem not_outside_emptyWindow {event : SavingsRateSegmentEvent}
    (inside : start ≤ event.timestamp ∧ event.timestamp ≤ stop) :
    ¬ (event.timestamp < (emptyWindow start stop).blockTimestampAtStart ∨
      event.timestamp > (emptyWindow start stop).blockTimestampAtEnd ∨
      event.timestamp < (emptyState start assets).lastUpdate) := by
  simp only [emptyWindow, emptyState]
  omega

/-- Quiet events inside the window leave the state alone. -/
theorem foldlM_quiet {events : List SavingsRateSegmentEvent}
    (quiet : ∀ event ∈ events, event.payload = .rateUpdated 0 ∧ start ≤ event.timestamp ∧
      event.timestamp ≤ stop) :
    events.foldlM (rateStep (emptyWindow start stop)) (emptyState start assets)
      = .ok (emptyState start assets) := by
  induction events with
  | nil => rfl
  | cons event events ih =>
      obtain ⟨payload, inside⟩ := quiet event List.mem_cons_self
      have step : rateStep (emptyWindow start stop) (emptyState start assets) event
          = .ok (emptyState start assets) := by
        rw [rateStep, if_neg (not_outside_emptyWindow inside), payload]
        rfl
      rw [foldlM_cons_ok events step]
      exact ih fun other mem => quiet other (List.mem_cons_of_mem _ mem)

end EmptyVault

/-- Finitely many timestamps fit into a window. -/
theorem exists_window (positions : List EventPosition) :
    ∃ start stop : ℤ, start ≤ stop ∧
      ∀ position ∈ positions, start ≤ position.timestamp ∧ position.timestamp ≤ stop := by
  induction positions with
  | nil => exact ⟨0, 0, le_rfl, by simp⟩
  | cons position positions ih =>
      obtain ⟨start, stop, le, inside⟩ := ih
      refine ⟨min start position.timestamp, max stop position.timestamp, by omega, ?_⟩
      intro other mem
      rcases List.mem_cons.mp mem with rfl | mem
      · omega
      · have := inside other mem
        omega

/-- The log of an inversion: a deposit, and later a withdrawal with a smaller log
index in the same second. -/
def inversionLog (front : List EventPosition) (deposit : EventPosition)
    (middle : List EventPosition) (withdrawal : EventPosition) (back : List EventPosition) :
    List (EventPosition × SavingsRatePayload) :=
  front.map quiet ++ (deposit, .deposit 1) :: middle.map quiet ++
    (withdrawal, .withdraw 1) :: back.map quiet

section Inversion

variable {front middle back : List EventPosition} {deposit withdrawal : EventPosition}
  {start stop : ℤ}

theorem map_fst_inversionLog :
    (inversionLog front deposit middle withdrawal back).map Prod.fst
      = front ++ deposit :: middle ++ withdrawal :: back := by
  have quiet_fst (positions : List EventPosition) : (positions.map quiet).map Prod.fst
      = positions := by
    rw [List.map_map]
    exact List.map_id' positions
  simp only [inversionLog, List.map_append, List.map_cons, quiet_fst]

theorem segmentEvents_inversionLog :
    segmentEvents (inversionLog front deposit middle withdrawal back)
      = segmentEvents (front.map quiet) ++ deposit.event (.deposit 1) ::
          (segmentEvents (middle.map quiet) ++ withdrawal.event (.withdraw 1) ::
            segmentEvents (back.map quiet)) := by
  simp [segmentEvents, inversionLog]

theorem payload_of_mem_quiet (start stop : ℤ) (positions : List EventPosition)
    (inside : ∀ position ∈ positions, start ≤ position.timestamp ∧ position.timestamp ≤ stop) :
    ∀ event ∈ segmentEvents (positions.map quiet), event.payload = .rateUpdated 0 ∧
      start ≤ event.timestamp ∧ event.timestamp ≤ stop := by
  intro event mem
  simp only [segmentEvents, List.map_map, List.mem_map, Function.comp_apply] at mem
  obtain ⟨position, hposition, rfl⟩ := mem
  exact ⟨rfl, inside position hposition⟩

/-- In chain order the inversion goes through. -/
theorem integrateInOrder_inversionLog (le : start ≤ stop)
    (inside : ∀ position ∈ front ++ deposit :: middle ++ withdrawal :: back,
      start ≤ position.timestamp ∧ position.timestamp ≤ stop) :
    ∃ result, integrateInOrder (emptyWindow start stop)
      (segmentEvents (inversionLog front deposit middle withdrawal back)) = .ok result := by
  have quietFront := payload_of_mem_quiet start stop front
    fun position mem => inside position (by simp [mem])
  have quietMiddle := payload_of_mem_quiet start stop middle
    fun position mem => inside position (by simp [mem])
  have quietBack := payload_of_mem_quiet start stop back
    fun position mem => inside position (by simp [mem])
  have atDeposit := inside deposit (by simp)
  have atWithdrawal := inside withdrawal (by simp)
  have deposits : rateStep (emptyWindow start stop) (emptyState start 0)
      (deposit.event (.deposit 1)) = .ok (emptyState start 1) := by
    rw [rateStep, if_neg (not_outside_emptyWindow atDeposit)]
    rfl
  have withdraws : rateStep (emptyWindow start stop) (emptyState start 1)
      (withdrawal.event (.withdraw 1)) = .ok (emptyState start 0) := by
    rw [rateStep, if_neg (not_outside_emptyWindow atWithdrawal)]
    rfl
  have run : (segmentEvents (inversionLog front deposit middle withdrawal back)).foldlM
      (rateStep (emptyWindow start stop)) (emptyState start 0) = .ok (emptyState start 0) := by
    rw [segmentEvents_inversionLog, foldlM_append_ok _ (foldlM_quiet quietFront),
      foldlM_cons_ok _ deposits, foldlM_append_ok _ (foldlM_quiet quietMiddle),
      foldlM_cons_ok _ withdraws]
    exact foldlM_quiet quietBack
  refine ⟨(emptyState start 0).result (emptyWindow start stop), ?_⟩
  rw [integrateInOrder, if_neg (not_misordered_emptyWindow le)]
  exact congrArg (Except.map _) run

/-- After the sort the withdrawal comes first and fails. -/
theorem integrateSegmentedRateWindow_inversionLog (le : start ≤ stop)
    (inside : ∀ position ∈ front ++ deposit :: middle ++ withdrawal :: back,
      start ≤ position.timestamp ∧ position.timestamp ≤ stop)
    (sameSecond : deposit.timestamp = withdrawal.timestamp)
    (descends : withdrawal.logIndex < deposit.logIndex) :
    integrateSegmentedRateWindow (emptyWindow start stop)
        (segmentEvents (inversionLog front deposit middle withdrawal back))
      = .error ⟨"Segmented-rate withdrawal exceeds actual assets"⟩ := by
  set events := segmentEvents (inversionLog front deposit middle withdrawal back) with hevents
  set taken := withdrawal.event (.withdraw 1) with htaken
  have mem : taken ∈ sortBy compareSegmentEvents events := by
    rw [mem_sortBy, hevents, segmentEvents_inversionLog]
    simp [htaken]
  obtain ⟨first, rest, split, fresh⟩ := List.eq_append_cons_of_mem mem
  -- nothing in front of the withdrawal is the deposit, whose log index is larger
  have quietFirst : ∀ event ∈ first, event.payload = .rateUpdated 0 ∧
      start ≤ event.timestamp ∧ event.timestamp ≤ stop := by
    intro event hfirst
    have key := le_of_mem_front ordersBy_compareSegmentEvents split hfirst
    have sorted : event ∈ sortBy compareSegmentEvents events := by
      rw [split]
      exact List.mem_append_left _ hfirst
    have original := mem_sortBy.mp sorted
    rw [hevents, segmentEvents_inversionLog] at original
    simp only [List.mem_append, List.mem_cons] at original
    rcases original with hfront | rfl | hmiddle | rfl | hback
    · exact payload_of_mem_quiet start stop front
        (fun position mem => inside position (by simp [mem])) event hfront
    · rw [Prod.Lex.toLex_le_toLex] at key
      simp only [htaken, EventPosition.event] at key
      omega
    · exact payload_of_mem_quiet start stop middle
        (fun position mem => inside position (by simp [mem])) event hmiddle
    · exact absurd hfirst fresh
    · exact payload_of_mem_quiet start stop back
        (fun position mem => inside position (by simp [mem])) event hback
  have atWithdrawal := inside withdrawal (by simp)
  have withdraws : rateStep (emptyWindow start stop) (emptyState start 0) taken
      = .error ⟨"Segmented-rate withdrawal exceeds actual assets"⟩ := by
    rw [rateStep, if_neg (not_outside_emptyWindow atWithdrawal)]
    rfl
  rw [integrateSegmentedRateWindow, integrateInOrder, if_neg (not_misordered_emptyWindow le), split]
  refine congrArg (Except.map _) (?_ : List.foldlM _ (emptyState start 0) _ = .error _)
  rw [foldlM_append_ok _ (foldlM_quiet quietFirst), foldlM_cons_error _ withdraws]

end Inversion

/-! ## The result -/

/-- **When the order of the chain is respected.**  At positions in chain order, the
function agrees with the loop in chain order for all payloads and all windows
exactly if the log indices do not descend within a timestamp. -/
theorem integrateSegmentedRateWindow_eq_inOrder_iff {positions : List EventPosition}
    (ordered : ChainOrdered positions) :
    (∀ log : List (EventPosition × SavingsRatePayload), log.map Prod.fst = positions →
      ∀ window, integrateSegmentedRateWindow window (segmentEvents log)
        = integrateInOrder window (segmentEvents log))
      ↔ IndexAscending positions := by
  constructor
  · -- an inversion is turned into a deposit and its withdrawal
    intro agree
    by_contra descends
    obtain ⟨front, deposit, middle, withdrawal, back, rfl, inversion⟩ :=
      exists_split_of_not_pairwise descends
    push Not at inversion
    obtain ⟨start, stop, le, inside⟩ :=
      exists_window (front ++ deposit :: middle ++ withdrawal :: back)
    have equal := agree _ map_fst_inversionLog (emptyWindow start stop)
    obtain ⟨result, through⟩ := integrateInOrder_inversionLog le inside
    rw [integrateSegmentedRateWindow_inversionLog le inside inversion.1 inversion.2, through]
      at equal
    cases equal
  · rintro ascending log rfl window
    rw [integrateSegmentedRateWindow, sortBy_segmentEvents_eq_self ordered ascending]

/-- Two blocks in one second: a deposit in block 10, a withdrawal in block 11. -/
def sharedSecond : List EventPosition := [⟨10, 1000, 5⟩, ⟨11, 1000, 0⟩]

theorem integrateSegmentedRateWindow_eq_inOrder_iff_sharedSecond :
    ¬ ∀ log : List (EventPosition × SavingsRatePayload), log.map Prod.fst = sharedSecond →
      ∀ window, integrateSegmentedRateWindow window (segmentEvents log)
        = integrateInOrder window (segmentEvents log) := by
  rw [integrateSegmentedRateWindow_eq_inOrder_iff (by decide)]
  decide

/-- **A flipped pair.**  In chain order 100 is deposited into the empty vault and
then withdrawn; the function takes the withdrawal first and throws. -/
theorem flipped_withdrawal :
    let window : RateWindow := ⟨0, 0, 0, 900, 900, 1100⟩
    let events := segmentEvents (sharedSecond.zip [.deposit 100, .withdraw 100])
    ChainOrdered sharedSecond ∧
    integrateInOrder window events = .ok ⟨0, 0, 0, 0, 0, 0, 0, 0, 900⟩ ∧
    integrateSegmentedRateWindow window events
      = .error ⟨"Segmented-rate withdrawal exceeds actual assets"⟩ := by
  decide

end UsdpIndexer
