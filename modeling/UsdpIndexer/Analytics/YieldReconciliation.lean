import UsdpIndexer.Analytics.RateModel
import UsdpIndexer.Indexer.Store

/-!
# Reconciling a yield interval

`analytics/yield-reconciliation.ts` past the integration itself: an interval row
with its two boundary snapshots is checked by one of two procedures.

* `reconcileConstantRateWindow` recomputes both totals, where nothing but the time
  has changed between the snapshots.  It does not look at the events.
* Otherwise the events of the interval are sorted and integrated from the start
  snapshot, and the result is compared with the end snapshot.  The total of the
  *start* snapshot is compared with nothing: it enters the stored and the integrated
  yield alike and cancels out.

Both set the row to `verified`.  `verified_certifies_iff` says which intervals that
status certifies: what it is measured by is the rate model, which takes the events
in the order of the chain.  `verified_ypoDelta` is about the difference between the
integrated and the stored yield.
-/

namespace UsdpIndexer

open StableOrder FailingFold

/-! ## The constant-rate path -/

/-- What the check of an interval has come to. -/
inductive ReconciliationStatus
  | candidate
  | verified
  | invalid
deriving DecidableEq, Repr

/-- Why it has come to that. -/
inductive ReconciliationReason
  | segmented_rate_reconciliation_required
  | invalid_boundary_time_order
  | constant_rate_integration_exact
  | rate_integration_mismatch
  | segmented_rate_integration_exact
  | event_pending_and_rate_state_exact
  | rate_state_integration_mismatch
deriving DecidableEq, Repr

/-- The two ends of an interval. -/
structure ReconciliationInput where
  actualAssetsAtStart : ℤ
  actualAssetsAtEnd : ℤ
  totalAssetsAtStart : ℤ
  totalAssetsAtEnd : ℤ
  rateAtStart : ℤ
  rateAtEnd : ℤ
  lastUpdateAtStart : ℤ
  lastUpdateAtEnd : ℤ
  blockTimestampAtStart : ℤ
  blockTimestampAtEnd : ℤ
  accruedInterest : ℤ
  nativeYpo : ℤ
deriving DecidableEq, Repr

/-- The figures that go with a verdict of the constant-rate path. -/
structure ConstantRateEvidence where
  predictedTotalAssetsAtStart : ℤ
  predictedTotalAssetsAtEnd : ℤ
  independentlyIntegratedYpo : ℤ
  totalAssetsStartDelta : ℤ
  totalAssetsEndDelta : ℤ
  ypoDelta : ℤ
deriving DecidableEq, Repr

/-- The figures that go with a verdict of the segmented path. -/
structure SegmentedRateEvidence where
  independentlyIntegratedYpo : ℤ
  ypoDelta : ℤ
  predictedTotalAssetsAtEnd : ℤ
  totalAssetsEndDelta : ℤ
  predictedActualAssetsAtEnd : ℤ
  actualAssetsEndDelta : ℤ
  predictedRateAtEnd : ℤ
  rateEndDelta : ℤ
  predictedLastUpdateAtEnd : ℤ
  lastUpdateEndDelta : ℤ
  accruedVariance : ℤ
deriving DecidableEq, Repr

/-- The figures that a check is based on. -/
inductive ReconciliationEvidence
  | none
  | constant (evidence : ConstantRateEvidence)
  | segmented (evidence : SegmentedRateEvidence)
deriving DecidableEq, Repr

/-- What a check returns. -/
structure Reconciliation where
  status : ReconciliationStatus
  reason : ReconciliationReason
  evidence : ReconciliationEvidence
deriving DecidableEq, Repr

/-- The difference between the integrated and the stored yield, where it is reported. -/
def Reconciliation.ypoDelta (reconciliation : Reconciliation) : Option ℤ :=
  match reconciliation.evidence with
  | .none => none
  | .constant evidence => some evidence.ypoDelta
  | .segmented evidence => some evidence.ypoDelta

/-- Nothing but the time has changed between the boundaries. -/
def ReconciliationInput.StableBasis (input : ReconciliationInput) : Prop :=
  input.actualAssetsAtStart = input.actualAssetsAtEnd ∧ input.rateAtStart = input.rateAtEnd ∧
    input.lastUpdateAtStart = input.lastUpdateAtEnd ∧ input.accruedInterest = 0

instance (input : ReconciliationInput) : Decidable input.StableBasis :=
  inferInstanceAs (Decidable (_ ∧ _))

/-- The check for an interval in which only time has passed. -/
def reconcileConstantRateWindow (input : ReconciliationInput) : Reconciliation :=
  if ¬ input.StableBasis then ⟨.candidate, .segmented_rate_reconciliation_required, .none⟩
  else
    let startElapsed := input.blockTimestampAtStart - input.lastUpdateAtStart
    let endElapsed := input.blockTimestampAtEnd - input.lastUpdateAtEnd
    if startElapsed < 0 ∨ endElapsed < startElapsed then
      ⟨.invalid, .invalid_boundary_time_order, .none⟩
    else
      let predictedTotalAssetsAtStart :=
        computeUpdatedAssets input.actualAssetsAtStart input.rateAtStart startElapsed
      let predictedTotalAssetsAtEnd :=
        computeUpdatedAssets input.actualAssetsAtEnd input.rateAtEnd endElapsed
      let independentlyIntegratedYpo := predictedTotalAssetsAtEnd - predictedTotalAssetsAtStart
      let verified := predictedTotalAssetsAtStart = input.totalAssetsAtStart ∧
        predictedTotalAssetsAtEnd = input.totalAssetsAtEnd ∧
        independentlyIntegratedYpo = input.nativeYpo
      { status := if verified then .verified else .invalid
        reason := if verified then .constant_rate_integration_exact
          else .rate_integration_mismatch
        evidence := .constant
          { predictedTotalAssetsAtStart := predictedTotalAssetsAtStart
            predictedTotalAssetsAtEnd := predictedTotalAssetsAtEnd
            independentlyIntegratedYpo := independentlyIntegratedYpo
            totalAssetsStartDelta := predictedTotalAssetsAtStart - input.totalAssetsAtStart
            totalAssetsEndDelta := predictedTotalAssetsAtEnd - input.totalAssetsAtEnd
            ypoDelta := independentlyIntegratedYpo - input.nativeYpo } }

/-! ## One interval -/

/-- An interval row joined with its two boundary snapshots; times in seconds. -/
structure YieldReconciliationRow where
  id : ℕ
  fromBlock : ℤ
  toBlock : ℤ
  nativeYpo : ℤ
  accruedInterest : ℤ
  startTotalAssets : ℤ
  startActualAssets : ℤ
  startRate : ℤ
  startLastUpdate : ℤ
  startTimestamp : ℤ
  endTotalAssets : ℤ
  endActualAssets : ℤ
  endRate : ℤ
  endLastUpdate : ℤ
  endTimestamp : ℤ
deriving DecidableEq, Repr

/-- The two ends, as the check takes them. -/
def YieldReconciliationRow.input (row : YieldReconciliationRow) : ReconciliationInput where
  actualAssetsAtStart := row.startActualAssets
  actualAssetsAtEnd := row.endActualAssets
  totalAssetsAtStart := row.startTotalAssets
  totalAssetsAtEnd := row.endTotalAssets
  rateAtStart := row.startRate
  rateAtEnd := row.endRate
  lastUpdateAtStart := row.startLastUpdate
  lastUpdateAtEnd := row.endLastUpdate
  blockTimestampAtStart := row.startTimestamp
  blockTimestampAtEnd := row.endTimestamp
  accruedInterest := row.accruedInterest
  nativeYpo := row.nativeYpo

/-- The start and the time of the end, as the integration takes them. -/
def YieldReconciliationRow.window (row : YieldReconciliationRow) : RateWindow where
  actualAssetsAtStart := row.startActualAssets
  totalAssetsAtStart := row.startTotalAssets
  rateAtStart := row.startRate
  lastUpdateAtStart := row.startLastUpdate
  blockTimestampAtStart := row.startTimestamp
  blockTimestampAtEnd := row.endTimestamp

/-- The integration has arrived at the end snapshot. -/
def YieldReconciliationRow.StateExact (row : YieldReconciliationRow)
    (integrated : SegmentedRateResult) : Prop :=
  integrated.predictedTotalAssetsAtEnd = row.endTotalAssets ∧
    integrated.actualAssetsAtEnd = row.endActualAssets ∧ integrated.rateAtEnd = row.endRate ∧
    integrated.emittedAccruedInterest = row.accruedInterest

instance (row : YieldReconciliationRow) (integrated : SegmentedRateResult) :
    Decidable (row.StateExact integrated) :=
  inferInstanceAs (Decidable (_ ∧ _))

/-- The verdict of the segmented path. -/
def reconcileSegmented (row : YieldReconciliationRow) (integrated : SegmentedRateResult) :
    Reconciliation where
  status := if row.StateExact integrated then .verified else .invalid
  reason :=
    if row.StateExact integrated then
      if integrated.integratedYpo = row.nativeYpo then .segmented_rate_integration_exact
      else .event_pending_and_rate_state_exact
    else .rate_state_integration_mismatch
  evidence := .segmented
    { independentlyIntegratedYpo := integrated.integratedYpo
      ypoDelta := integrated.integratedYpo - row.nativeYpo
      predictedTotalAssetsAtEnd := integrated.predictedTotalAssetsAtEnd
      totalAssetsEndDelta := integrated.predictedTotalAssetsAtEnd - row.endTotalAssets
      predictedActualAssetsAtEnd := integrated.actualAssetsAtEnd
      actualAssetsEndDelta := integrated.actualAssetsAtEnd - row.endActualAssets
      predictedRateAtEnd := integrated.rateAtEnd
      rateEndDelta := integrated.rateAtEnd - row.endRate
      predictedLastUpdateAtEnd := integrated.lastUpdateAtEnd
      lastUpdateEndDelta := integrated.lastUpdateAtEnd - row.endLastUpdate
      accruedVariance := integrated.emittedAccruedInterest - row.accruedInterest }

/-- What `reconcileSavingsYield` makes of a row; the events are read only when the
constant-rate path leaves the question open. -/
def reconcileRow (row : YieldReconciliationRow)
    (readEvents : Except JsError (List SavingsRateSegmentEvent)) : Except JsError Reconciliation :=
  let reconciliation := reconcileConstantRateWindow row.input
  if reconciliation.status = .candidate then do
    let segmentedEvents ← readEvents
    let integrated ← integrateSegmentedRateWindow row.window segmentedEvents
    return reconcileSegmented row integrated
  else .ok reconciliation

/-! ## The stored intervals -/

/-- The columns of `savings_chain_snapshots` that are read here. -/
structure SavingsChainSnapshotRow where
  id : ℕ
  chainId : ℕ
  blockTimestamp : ℤ
  susdpTotalAssets : ℤ
  susdpActualAssets : ℤ
  susdpRate : ℤ
  susdpLastUpdate : ℤ
deriving DecidableEq, Repr

/-- The columns of `savings_yield_aggregates` that are read or written here. -/
structure SavingsYieldRow where
  id : ℕ
  chainId : ℕ
  startSnapshotId : ℕ
  endSnapshotId : ℕ
  fromBlock : ℤ
  toBlock : ℤ
  windowEnd : ℤ
  accruedInterest : ℤ
  nativeYpo : ℤ
  reconciliationStatus : ReconciliationStatus
  createdAt : ℤ
deriving DecidableEq, Repr

/-- The tables that the check reads and writes. -/
structure SavingsDatabase where
  index : Database
  snapshots : List SavingsChainSnapshotRow
  yields : List SavingsYieldRow

/-- The join of an interval with its snapshots. -/
def SavingsDatabase.joinSnapshots (db : SavingsDatabase) (row : SavingsYieldRow) :
    Option YieldReconciliationRow := do
  let start ← db.snapshots.find? (·.id = row.startSnapshotId)
  let finish ← db.snapshots.find? (·.id = row.endSnapshotId)
  return ⟨row.id, row.fromBlock, row.toBlock, row.nativeYpo, row.accruedInterest,
    start.susdpTotalAssets, start.susdpActualAssets, start.susdpRate, start.susdpLastUpdate,
    start.blockTimestamp, finish.susdpTotalAssets, finish.susdpActualAssets, finish.susdpRate,
    finish.susdpLastUpdate, finish.blockTimestamp⟩

/-- The interval to be reconciled: of all intervals of the chain, or those with the
given number, the one with the latest window, and of these the newest. -/
def SavingsDatabase.selectInterval (db : SavingsDatabase) (chainId : ℕ)
    (savingsYieldId : Option ℕ) : Option YieldReconciliationRow :=
  let rows := db.yields.filter fun row =>
    row.chainId = chainId ∧ (savingsYieldId = none ∨ savingsYieldId = some row.id)
  let ordered := sortBy (fun a b => lexCompare (·.windowEnd) (·.createdAt) b a) rows
  (ordered.filterMap db.joinSnapshots).head?

/-- `BigInt(event.payload[key] ?? "0")`; the columns in question hold decimal
strings. -/
def payloadBigInt (payload : Json) (key : String) : Except JsError ℤ :=
  match payload.field key with
  | none => .ok 0
  | some (.decimal value) | some (.number value) => .ok value
  | some _ => .error ⟨s!"Cannot convert {key} to a BigInt"⟩

/-- The payload of a rate event. -/
def segmentPayload (event : ProtocolEventRow) : Except JsError SavingsRatePayload :=
  if event.eventName = "Accrued" then (payloadBigInt event.payload "interest").map .accrued
  else if event.eventName = "Deposit" then (payloadBigInt event.payload "assets").map .deposit
  else if event.eventName = "Withdraw" then (payloadBigInt event.payload "assets").map .withdraw
  else (payloadBigInt event.payload "newRate").map .rateUpdated

/-- The rate events in `(fromBlock, toBlock]`, each with its block, in chain order. -/
def selectRateEvents (db : Database) (chainId : ℕ) (fromBlock toBlock : ℤ) :
    List (BlockRow × ProtocolEventRow) :=
  db.selectEvents chainId fun event =>
    fromBlock < event.blockNumber ∧ event.blockNumber ≤ toBlock ∧
      event.contractRole = "susdp-savings" ∧
      event.eventName ∈ ["Accrued", "Deposit", "Withdraw", "RateUpdated"]

/-- The events of a range that change the rate or the assets, with their payloads read. -/
def readRateEvents (db : Database) (chainId : ℕ) (fromBlock toBlock : ℤ) :
    Except JsError (List SavingsRateSegmentEvent) :=
  (selectRateEvents db chainId fromBlock toBlock).mapM fun entry =>
    (segmentPayload entry.2).map fun payload => ⟨entry.1.timestamp, entry.2.logIndex, payload⟩

/-- `update savings_yield_aggregates set reconciliation_status = … where id = …`. -/
def SavingsDatabase.setStatus (db : SavingsDatabase) (id : ℕ) (status : ReconciliationStatus) :
    SavingsDatabase :=
  { db with yields := db.yields.map fun row =>
      if row.id = id then { row with reconciliationStatus := status } else row }

/-- `reconcileSavingsYield`: `none` where there is no interval. -/
def reconcileSavingsYield (db : SavingsDatabase) (chainId : ℕ) (savingsYieldId : Option ℕ) :
    Except JsError (Option Reconciliation × SavingsDatabase) :=
  match db.selectInterval chainId savingsYieldId with
  | none => .ok (none, db)
  | some row => do
      let reconciliation ←
        reconcileRow row (readRateEvents db.index chainId row.fromBlock row.toBlock)
      return (some reconciliation,
        if reconciliation.status = .candidate then db
        else db.setStatus row.id reconciliation.status)

/-! ## When an interval is verified -/

namespace YieldReconciliationRow

variable (row : YieldReconciliationRow)

/-- The boundary times are in order for the constant-rate path. -/
def TimesOrdered : Prop :=
  row.startLastUpdate ≤ row.startTimestamp ∧
    row.startTimestamp - row.startLastUpdate ≤ row.endTimestamp - row.endLastUpdate

/-- The total of the start snapshot is what the rate model makes of the rest of it. -/
def StartConsistent : Prop :=
  row.startTotalAssets
    = computeUpdatedAssets row.startActualAssets row.startRate
        (row.startTimestamp - row.startLastUpdate)

/-- What the model makes of the end snapshot's assets and rate. -/
def modelTotalAtEnd : ℤ :=
  computeUpdatedAssets row.endActualAssets row.endRate (row.endTimestamp - row.endLastUpdate)

/-- The constant rate alone explains both totals and the yield. -/
def RateAloneExplains : Prop :=
  row.TimesOrdered ∧ row.StartConsistent ∧ row.endTotalAssets = row.modelTotalAtEnd ∧
    row.nativeYpo = row.endTotalAssets - row.startTotalAssets

end YieldReconciliationRow

/-- The events account for everything that the segmented path compares. -/
def AccountedFor (row : YieldReconciliationRow) (events : List SavingsRateSegmentEvent) : Prop :=
  ∃ integrated, integrateSegmentedRateWindow row.window events = .ok integrated ∧
    row.StateExact integrated

/-- The interval with these events is found to be verified. -/
def Verified (row : YieldReconciliationRow) (events : List SavingsRateSegmentEvent) : Prop :=
  ∃ reconciliation, reconcileRow row (.ok events) = .ok reconciliation ∧
    reconciliation.status = .verified

/-- The constant-rate path is left exactly where more than the time has changed. -/
theorem reconcileConstantRateWindow_candidate (input : ReconciliationInput) :
    (reconcileConstantRateWindow input).status = .candidate ↔ ¬ input.StableBasis := by
  unfold reconcileConstantRateWindow
  by_cases stable : input.StableBasis
  · rw [if_neg (not_not.mpr stable)]
    refine iff_of_false ?_ (not_not.mpr stable)
    simp only
    split
    · simp
    · split <;> simp
  · simp [stable]

/-- Where only the time has changed the events are not read. -/
theorem reconcileRow_constant {row : YieldReconciliationRow}
    (stable : row.input.StableBasis)
    (readEvents : Except JsError (List SavingsRateSegmentEvent)) :
    reconcileRow row readEvents = .ok (reconcileConstantRateWindow row.input) := by
  have decided := (reconcileConstantRateWindow_candidate row.input).not.mpr (not_not.mpr stable)
  rw [reconcileRow, if_neg decided]

/-- Otherwise the integration decides. -/
theorem reconcileRow_segmented {row : YieldReconciliationRow}
    (changed : ¬ row.input.StableBasis) (events : List SavingsRateSegmentEvent) :
    reconcileRow row (.ok events)
      = (integrateSegmentedRateWindow row.window events).map (reconcileSegmented row) := by
  rw [reconcileRow, if_pos ((reconcileConstantRateWindow_candidate row.input).mpr changed)]
  show (integrateSegmentedRateWindow row.window events >>= fun integrated =>
    Except.ok (reconcileSegmented row integrated)) = _
  cases integrateSegmentedRateWindow row.window events <;> rfl

/-- The checks of the constant-rate path. -/
theorem reconcileConstantRateWindow_verified {input : ReconciliationInput}
    (stable : input.StableBasis) :
    (reconcileConstantRateWindow input).status = .verified ↔
      (input.lastUpdateAtStart ≤ input.blockTimestampAtStart ∧
        input.blockTimestampAtStart - input.lastUpdateAtStart
          ≤ input.blockTimestampAtEnd - input.lastUpdateAtEnd) ∧
      input.totalAssetsAtStart = computeUpdatedAssets input.actualAssetsAtStart input.rateAtStart
        (input.blockTimestampAtStart - input.lastUpdateAtStart) ∧
      input.totalAssetsAtEnd = computeUpdatedAssets input.actualAssetsAtEnd input.rateAtEnd
        (input.blockTimestampAtEnd - input.lastUpdateAtEnd) ∧
      input.nativeYpo = input.totalAssetsAtEnd - input.totalAssetsAtStart := by
  rw [reconcileConstantRateWindow, if_neg (not_not.mpr stable)]
  simp only
  split
  · apply iff_of_false (by simp)
    omega
  · split
    · apply iff_of_true rfl
      omega
    · apply iff_of_false (by simp)
      omega

/-- Where the constant-rate path verifies there is no difference. -/
theorem reconcileConstantRateWindow_ypoDelta {input : ReconciliationInput}
    (verified : (reconcileConstantRateWindow input).status = .verified) :
    (reconcileConstantRateWindow input).reason ≠ .event_pending_and_rate_state_exact ∧
      (reconcileConstantRateWindow input).ypoDelta = some 0 := by
  revert verified
  rw [reconcileConstantRateWindow]
  split
  · simp
  · simp only
    split
    · simp
    · split
      · rename_i agree
        intro
        refine ⟨by simp, ?_⟩
        simp only [Reconciliation.ypoDelta, Option.some.injEq]
        omega
      · simp

/-- **Both procedures at once**: what is checked before an interval is verified. -/
theorem verified_iff (row : YieldReconciliationRow) (events : List SavingsRateSegmentEvent) :
    Verified row events ↔ (row.input.StableBasis ∧ row.RateAloneExplains) ∨
      (¬ row.input.StableBasis ∧ AccountedFor row events) := by
  rw [Verified]
  by_cases stable : row.input.StableBasis
  · simp only [reconcileRow_constant stable, Except.ok.injEq, exists_eq_left', stable,
      true_and, not_true, false_and, or_false]
    exact reconcileConstantRateWindow_verified stable
  · simp only [reconcileRow_segmented stable, map_eq_ok, stable, false_and, false_or,
      not_false_eq_true, true_and]
    constructor
    · rintro ⟨_, ⟨integrated, run, rfl⟩, status⟩
      refine ⟨integrated, run, ?_⟩
      by_contra inexact
      simp [reconcileSegmented, inexact] at status
    · rintro ⟨integrated, run, matched⟩
      exact ⟨_, ⟨integrated, run, rfl⟩, by simp [reconcileSegmented, matched]⟩

/-- A stored interval that `reconcileSavingsYield` resolves to verified is verified
with the events its range has in the index. -/
theorem verified_of_reconcileSavingsYield {db db' : SavingsDatabase} {chainId : ℕ}
    {savingsYieldId : Option ℕ} {reconciliation : Reconciliation}
    {events : List SavingsRateSegmentEvent}
    (run : reconcileSavingsYield db chainId savingsYieldId = .ok (some reconciliation, db'))
    (verified : reconciliation.status = .verified) :
    ∃ row, db.selectInterval chainId savingsYieldId = some row ∧
      db' = db.setStatus row.id .verified ∧
      (readRateEvents db.index chainId row.fromBlock row.toBlock = .ok events →
        Verified row events) := by
  rw [reconcileSavingsYield] at run
  split at run
  · cases run
  · rename_i row selected
    obtain ⟨found, reconciled, result⟩ := bind_eq_ok.mp run
    cases result
    refine ⟨row, selected, by simp [verified], fun read => ⟨_, ?_, verified⟩⟩
    rw [← read]
    exact reconciled

/-! ## What the status certifies -/

namespace YieldReconciliationRow

/-- The vault of the start snapshot. -/
def startVault (row : YieldReconciliationRow) : RateModel :=
  ⟨row.startActualAssets, row.startRate, row.startLastUpdate⟩

/-- Where the rate model arrives from the start snapshot, with the events in the order in
which they are read, which is the order of the chain. -/
def predictedVault (row : YieldReconciliationRow) (events : List SavingsRateSegmentEvent) :
    RateModel :=
  events.foldl RateModel.after row.startVault

end YieldReconciliationRow

/-- The end snapshot is the one that the rate model predicts. -/
def EndPredicted (row : YieldReconciliationRow) (events : List SavingsRateSegmentEvent) : Prop :=
  row.endTotalAssets = (row.predictedVault events).totalAssets row.endTimestamp ∧
    row.endActualAssets = (row.predictedVault events).actualAssets ∧
    row.endRate = (row.predictedVault events).rate

/-- Both snapshots are what the rate model says they are. -/
def Certified (row : YieldReconciliationRow) (events : List SavingsRateSegmentEvent) : Prop :=
  row.StartConsistent ∧ EndPredicted row events

/-- The prediction without going through the events. -/
theorem endPredicted_iff (row : YieldReconciliationRow) (events : List SavingsRateSegmentEvent) :
    EndPredicted row events ↔
      row.endTotalAssets = computeUpdatedAssets (row.startActualAssets + netAssets events)
          (lastRate row.startRate events)
          (row.endTimestamp - lastAccrual row.startLastUpdate events) ∧
        row.endActualAssets = row.startActualAssets + netAssets events ∧
        row.endRate = lastRate row.startRate events := by
  rw [EndPredicted, YieldReconciliationRow.predictedVault, RateModel.after_events]
  rfl

/-- The events explain the end snapshot, taken in the order of the sort: their interest is
the row's, the assets are the sum, the rate is the last one set, and the total is what
has grown since the last accrual. -/
structure EndExplained (row : YieldReconciliationRow) (events : List SavingsRateSegmentEvent) :
    Prop where
  admitted : row.window.Admits events
  interest : row.accruedInterest = emittedInterest events
  actual : row.endActualAssets = row.startActualAssets + netAssets events
  rate : row.endRate = lastRate row.startRate (sortBy compareSegmentEvents events)
  total : row.endTotalAssets = computeUpdatedAssets row.endActualAssets row.endRate
    (row.endTimestamp - lastAccrual row.startLastUpdate (sortBy compareSegmentEvents events))

/-- **The checks of the segmented path**, without going through the events. -/
theorem accountedFor_iff (row : YieldReconciliationRow) (events : List SavingsRateSegmentEvent) :
    AccountedFor row events ↔ EndExplained row events := by
  constructor
  · rintro ⟨integrated, run, total, actual, rate, interest⟩
    obtain ⟨sum, last, emitted, grown⟩ := integrateSegmentedRateWindow_arrives run
    rw [actual, rate, total] at grown
    exact ⟨exists_integrateSegmentedRateWindow_iff.mp ⟨integrated, run⟩,
      interest.symm.trans emitted, actual.symm.trans sum, rate.symm.trans last, grown⟩
  · rintro ⟨admitted, interest, actual, rate, total⟩
    obtain ⟨integrated, run⟩ := exists_integrateSegmentedRateWindow_iff.mpr admitted
    obtain ⟨sum, last, emitted, grown⟩ := integrateSegmentedRateWindow_arrives run
    have sameActual : integrated.actualAssetsAtEnd = row.endActualAssets := sum.trans actual.symm
    have sameRate : integrated.rateAtEnd = row.endRate := last.trans rate.symm
    rw [sameActual, sameRate] at grown
    exact ⟨integrated, run, grown.trans total.symm, sameActual, sameRate,
      emitted.trans interest.symm⟩

/-- **Events nobody has read**: nothing but the time differs between the boundaries and
the constant rate explains them, but the events of the interval move the assets or the
rate, or their last accrual starts the clock where another total grows from it. -/
structure EventsUnread (row : YieldReconciliationRow) (events : List SavingsRateSegmentEvent) :
    Prop where
  stable : row.input.StableBasis
  explained : row.RateAloneExplains
  moved : netAssets events ≠ 0 ∨ lastRate row.startRate events ≠ row.startRate ∨
    computeUpdatedAssets row.startActualAssets row.startRate
        (row.endTimestamp - lastAccrual row.startLastUpdate events)
      ≠ computeUpdatedAssets row.startActualAssets row.startRate
        (row.endTimestamp - row.startLastUpdate)

/-- **A start nobody has checked**: more than the time differs and the events explain the
end, but the start total is not the one of its assets, rate and time. -/
structure StartUnchecked (row : YieldReconciliationRow) (events : List SavingsRateSegmentEvent) :
    Prop where
  changed : ¬ row.input.StableBasis
  explained : EndExplained row events
  misstated : row.startTotalAssets ≠ computeUpdatedAssets row.startActualAssets row.startRate
    (row.startTimestamp - row.startLastUpdate)

/-- **Events out of order**: more than the time differs and the events explain the end in
the order of the sort, but in the order of the chain another rate is the last one, or the
last accrual leaves another total. -/
structure EventsReordered (row : YieldReconciliationRow) (events : List SavingsRateSegmentEvent) :
    Prop where
  changed : ¬ row.input.StableBasis
  explained : EndExplained row events
  reordered : lastRate row.startRate events
        ≠ lastRate row.startRate (sortBy compareSegmentEvents events) ∨
    computeUpdatedAssets row.endActualAssets row.endRate
        (row.endTimestamp - lastAccrual row.startLastUpdate events)
      ≠ computeUpdatedAssets row.endActualAssets row.endRate (row.endTimestamp
        - lastAccrual row.startLastUpdate (sortBy compareSegmentEvents events))

/-- Where only the time has changed, the end is predicted by the events that leave the
vault as if there had been none. -/
theorem endPredicted_iff_not_moved {row : YieldReconciliationRow}
    {events : List SavingsRateSegmentEvent} (stable : row.input.StableBasis)
    (explained : row.RateAloneExplains) :
    EndPredicted row events ↔ ¬ EventsUnread row events := by
  obtain ⟨actual, rate, lastUpdate, -⟩ := id stable
  simp only [YieldReconciliationRow.input] at actual rate lastUpdate
  have total : row.endTotalAssets = computeUpdatedAssets row.startActualAssets row.startRate
      (row.endTimestamp - row.startLastUpdate) := by
    rw [actual, rate, lastUpdate]
    exact explained.2.2.1
  rw [endPredicted_iff, total, ← actual, ← rate]
  constructor
  · rintro ⟨grown, sum, last⟩ ⟨-, -, moved⟩
    have none : netAssets events = 0 := by omega
    rw [none, add_zero, ← last] at grown
    rcases moved with moves | sets | accrues
    · exact moves none
    · exact sets last.symm
    · exact accrues grown.symm
  · intro unmoved
    have still : netAssets events = 0 ∧ lastRate row.startRate events = row.startRate ∧
        computeUpdatedAssets row.startActualAssets row.startRate
            (row.endTimestamp - lastAccrual row.startLastUpdate events)
          = computeUpdatedAssets row.startActualAssets row.startRate
            (row.endTimestamp - row.startLastUpdate) := by
      by_contra moved
      refine unmoved ⟨stable, explained, ?_⟩
      by_contra none
      push Not at none
      exact moved none
    obtain ⟨none, last, grown⟩ := still
    rw [none, last, add_zero]
    exact ⟨grown.symm, rfl, rfl⟩

/-- Where more has changed, the end is predicted unless the sort has brought the events
out of order. -/
theorem endPredicted_iff_not_reordered {row : YieldReconciliationRow}
    {events : List SavingsRateSegmentEvent} (changed : ¬ row.input.StableBasis)
    (explained : EndExplained row events) :
    EndPredicted row events ↔ ¬ EventsReordered row events := by
  rw [endPredicted_iff]
  constructor
  · rintro ⟨grown, sum, last⟩ ⟨-, -, reordered⟩
    rw [← sum, ← last] at grown
    rcases reordered with sets | accrues
    · exact sets (last.symm.trans explained.rate)
    · exact accrues (grown.symm.trans explained.total)
  · intro inOrder
    have same : lastRate row.startRate events
          = lastRate row.startRate (sortBy compareSegmentEvents events) ∧
        computeUpdatedAssets row.endActualAssets row.endRate
            (row.endTimestamp - lastAccrual row.startLastUpdate events)
          = computeUpdatedAssets row.endActualAssets row.endRate (row.endTimestamp
            - lastAccrual row.startLastUpdate (sortBy compareSegmentEvents events)) := by
      by_contra differ
      refine inOrder ⟨changed, explained, ?_⟩
      by_contra none
      push Not at none
      exact differ none
    obtain ⟨last, grown⟩ := same
    rw [← explained.actual, last, ← explained.rate, grown]
    exact ⟨explained.total, rfl, rfl⟩

/-- Events whose log indices do not descend within a second stay in their order. -/
theorem not_eventsReordered {row : YieldReconciliationRow}
    {log : List (EventPosition × SavingsRatePayload)} (ordered : ChainOrdered (log.map Prod.fst))
    (ascending : IndexAscending (log.map Prod.fst)) :
    ¬ EventsReordered row (segmentEvents log) := by
  rintro ⟨-, -, reordered⟩
  rw [sortBy_segmentEvents_eq_self ordered ascending] at reordered
  rcases reordered with sets | accrues
  · exact sets rfl
  · exact accrues rfl

/-- **What the status certifies.**  A verified interval has the start and the end
that the rate model gives it, but for intervals of three kinds: the constant-rate path
takes no notice of events that have moved the vault; the segmented path takes none of
the total at the start, and none of the blocks that its events are from. -/
theorem verified_certifies_iff (row : YieldReconciliationRow)
    (events : List SavingsRateSegmentEvent) :
    (Verified row events → Certified row events) ↔
      ¬ EventsUnread row events ∧ ¬ StartUnchecked row events ∧
        ¬ EventsReordered row events := by
  rw [verified_iff, accountedFor_iff]
  by_cases stable : row.input.StableBasis
  · have checked : ¬ StartUnchecked row events := fun unchecked => unchecked.changed stable
    have inOrder : ¬ EventsReordered row events := fun reordered => reordered.changed stable
    simp only [stable, true_and, not_true, false_and, or_false, checked, inOrder,
      not_false_eq_true, and_true]
    constructor
    · intro certifies unread
      have predicted := (certifies unread.explained).2
      exact (endPredicted_iff_not_moved stable unread.explained).mp predicted unread
    · intro read explained
      exact ⟨explained.2.1, (endPredicted_iff_not_moved stable explained).mpr read⟩
  · have read : ¬ EventsUnread row events := fun unread => stable unread.stable
    simp only [stable, false_and, false_or, not_false_eq_true, true_and, read]
    constructor
    · intro certifies
      constructor
      · intro unchecked
        exact unchecked.misstated (certifies unchecked.explained).1
      · intro reordered
        have predicted := (certifies reordered.explained).2
        exact (endPredicted_iff_not_reordered stable reordered.explained).mp predicted reordered
    · rintro ⟨checked, inOrder⟩ explained
      refine ⟨?_, (endPredicted_iff_not_reordered stable explained).mpr inOrder⟩
      by_contra misstated
      exact checked ⟨stable, explained, misstated⟩

/-- A vault of 1000000 tokens at about 3 % a year, whose total was recorded too high at the
start; one second later the interest of that second is accrued. -/
def misstatedStart : YieldReconciliationRow where
  id := 1
  fromBlock := 10
  toBlock := 20
  nativeYpo := 6 * 10 ^ 14
  accruedInterest := 10 ^ 15
  startTotalAssets := 10 ^ 24 + 4 * 10 ^ 14
  startActualAssets := 10 ^ 24
  startRate := 10 ^ 18
  startLastUpdate := 1000
  startTimestamp := 1000
  endTotalAssets := 10 ^ 24 + 10 ^ 15
  endActualAssets := 10 ^ 24 + 10 ^ 15
  endRate := 10 ^ 18
  endLastUpdate := 1001
  endTimestamp := 1001

instance (row : YieldReconciliationRow) : Decidable row.StartConsistent :=
  inferInstanceAs (Decidable (_ = _))

/-- The events of the interval: one accrual, of what the rate explains. -/
def accruedOnce : List SavingsRateSegmentEvent := [⟨1001, 0, .accrued (10 ^ 15)⟩]

/-- What the integration makes of it. -/
def misstatedResult : SegmentedRateResult :=
  ⟨6 * 10 ^ 14, 10 ^ 15, 10 ^ 15, 0, 0, 10 ^ 24 + 10 ^ 15, 10 ^ 24 + 10 ^ 15, 10 ^ 18, 1001⟩

/-- **A wrong start total passes**, without a difference: the yield, as it is computed when
the row is stored, is short by what the total is too high, and so is the one it is
compared with. -/
theorem verified_misstatedStart :
    calculateNativeYpo misstatedStart.accruedInterest
        (misstatedStart.startTotalAssets - misstatedStart.startActualAssets)
        (misstatedStart.endTotalAssets - misstatedStart.endActualAssets)
      = .ok misstatedStart.nativeYpo ∧
    reconcileRow misstatedStart (.ok accruedOnce)
      = .ok (reconcileSegmented misstatedStart misstatedResult) ∧
    (reconcileSegmented misstatedStart misstatedResult).reason
      = .segmented_rate_integration_exact ∧
    (reconcileSegmented misstatedStart misstatedResult).ypoDelta = some 0 ∧
    Verified misstatedStart accruedOnce ∧ ¬ Certified misstatedStart accruedOnce := by
  have run : reconcileRow misstatedStart (.ok accruedOnce)
      = .ok (reconcileSegmented misstatedStart misstatedResult) := by
    rw [reconcileRow_segmented (by decide)]
    exact congrArg (Except.map _) (by decide :
      integrateSegmentedRateWindow misstatedStart.window accruedOnce = .ok misstatedResult)
  refine ⟨by decide, run, by decide, by decide, ⟨_, run, by decide⟩, ?_⟩
  exact fun certified => absurd certified.1 (by decide)

/-! ## The difference that is left -/

/-- The yield as the metric contract has it: what was accrued, and what is pending at
the end over what was pending at the start. -/
def YieldReconciliationRow.contractYpo (row : YieldReconciliationRow) : ℤ :=
  row.accruedInterest + (row.endTotalAssets - row.endActualAssets)
    - (row.startTotalAssets - row.startActualAssets)

/-- An integration that arrives at the end snapshot differs from the yield of the
contract by the interest that the rate does not explain. -/
theorem integratedYpo_of_stateExact {row : YieldReconciliationRow}
    {events : List SavingsRateSegmentEvent} {integrated : SegmentedRateResult}
    (run : integrateSegmentedRateWindow row.window events = .ok integrated)
    (matched : row.StateExact integrated) :
    integrated.integratedYpo
      = row.contractYpo
        - (integrated.emittedAccruedInterest - integrated.predictedAccruedInterest) := by
  obtain ⟨total, actual, -, accrued⟩ := matched
  rw [integratedYpo_eq run, YieldReconciliationRow.contractYpo, total, actual, accrued]
  simp only [YieldReconciliationRow.window]
  omega

/-- **The difference of a verified interval.**  It is zero, unless the reason says
that only events, pending yield and rate state are exact; then it is not zero, and it
is what the stored yield misses of the contract's, less the emitted interest that the
rate does not explain. -/
theorem verified_ypoDelta {row : YieldReconciliationRow}
    {events : List SavingsRateSegmentEvent} {reconciliation : Reconciliation}
    (run : reconcileRow row (.ok events) = .ok reconciliation)
    (verified : reconciliation.status = .verified) :
    (reconciliation.reason ≠ .event_pending_and_rate_state_exact ∧
      reconciliation.ypoDelta = some 0) ∨
    (reconciliation.reason = .event_pending_and_rate_state_exact ∧
      ∃ integrated, integrateSegmentedRateWindow row.window events = .ok integrated ∧
        reconciliation.ypoDelta = some (row.contractYpo - row.nativeYpo
          - (integrated.emittedAccruedInterest - integrated.predictedAccruedInterest)) ∧
        reconciliation.ypoDelta ≠ some 0) := by
  by_cases stable : row.input.StableBasis
  · -- the constant-rate path compares the yield itself
    rw [reconcileRow_constant stable] at run
    cases run
    exact .inl (reconcileConstantRateWindow_ypoDelta verified)
  · rw [reconcileRow_segmented stable] at run
    obtain ⟨integrated, through, rfl⟩ := map_eq_ok.mp run
    have matched : row.StateExact integrated := by
      by_contra inexact
      simp [reconcileSegmented, inexact] at verified
    have difference := integratedYpo_of_stateExact through matched
    by_cases same : integrated.integratedYpo = row.nativeYpo
    · refine .inl ⟨by simp [reconcileSegmented, matched, same], ?_⟩
      simp [reconcileSegmented, Reconciliation.ypoDelta, same]
    · refine .inr ⟨by simp [reconcileSegmented, matched, same], integrated, through, ?_, ?_⟩
      · simp only [reconcileSegmented, Reconciliation.ypoDelta, Option.some.injEq]
        omega
      · simp only [reconcileSegmented, Reconciliation.ypoDelta, ne_eq, Option.some.injEq]
        omega

/-- A vault at rate zero that emits an interest of 10. -/
def unexplainedInterest : YieldReconciliationRow where
  id := 1
  fromBlock := 10
  toBlock := 20
  nativeYpo := 10
  accruedInterest := 10
  startTotalAssets := 100
  startActualAssets := 100
  startRate := 0
  startLastUpdate := 0
  startTimestamp := 0
  endTotalAssets := 110
  endActualAssets := 110
  endRate := 0
  endLastUpdate := 50
  endTimestamp := 100

/-- What the integration makes of it. -/
def unexplainedResult : SegmentedRateResult := ⟨0, 0, 10, 10, 0, 110, 110, 0, 50⟩

theorem reconcileRow_unexplainedInterest :
    reconcileRow unexplainedInterest (.ok [⟨50, 0, .accrued 10⟩])
      = .ok (reconcileSegmented unexplainedInterest unexplainedResult) := by
  rw [reconcileRow_segmented (by decide)]
  exact congrArg (Except.map _) (by decide :
    integrateSegmentedRateWindow unexplainedInterest.window [⟨50, 0, .accrued 10⟩]
      = .ok unexplainedResult)

/-- **Verified with a difference of −10.** -/
theorem unexplainedInterest_verified :
    reconcileRow unexplainedInterest (.ok [⟨50, 0, .accrued 10⟩])
      = .ok (reconcileSegmented unexplainedInterest unexplainedResult) ∧
    (reconcileSegmented unexplainedInterest unexplainedResult).status = .verified ∧
    (reconcileSegmented unexplainedInterest unexplainedResult).ypoDelta = some (-10) :=
  ⟨reconcileRow_unexplainedInterest, by decide, by decide⟩

theorem verified_ypoDelta_unexplainedInterest :
    ∃ integrated,
      integrateSegmentedRateWindow unexplainedInterest.window [⟨50, 0, .accrued 10⟩]
        = .ok integrated ∧
      (reconcileSegmented unexplainedInterest unexplainedResult).ypoDelta
        = some (unexplainedInterest.contractYpo - unexplainedInterest.nativeYpo
          - (integrated.emittedAccruedInterest - integrated.predictedAccruedInterest)) := by
  rcases verified_ypoDelta reconcileRow_unexplainedInterest (by decide) with
    ⟨reason, -⟩ | ⟨-, integrated, through, delta, -⟩
  · exact absurd (by decide) reason
  · exact ⟨integrated, through, delta⟩

end UsdpIndexer
