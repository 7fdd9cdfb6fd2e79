import UsdpIndexer.Analytics.AnalyticsSystem
import UsdpIndexer.Analytics.RateWindows

/-!
# What the two yields can differ by

A yield is computed twice: `calculateSavingsYieldForRange` stores the interest that was
emitted and the change of the pending yield, and `reconcileSavingsYield` integrates the
rate.  In every database that the calls of the analytics lead to, a snapshot's pending
yield is what its total has over its actual assets, and an interval's yield is the one of
the snapshots that it names (`Derived`).  So an integration that arrives at the end
snapshot differs from the stored yield by the interest that the rate does not explain
(`reconciliation_identity`).
-/

namespace UsdpIndexer

open SerialTable StableOrder FailingFold

/-! ## What is stored has been computed -/

/-- Snapshots state the pending yield of their totals, and intervals the yield of their
snapshots. -/
structure AnalyticsDatabase.Derived (db : AnalyticsDatabase) : Prop where
  pending : ∀ row ∈ db.savingsSnapshots.values,
    row.susdpTotalAssets = row.susdpActualAssets + row.susdpPendingYield
  ypo : ∀ row ∈ db.yields.values, ∃ start finish,
    db.savingsSnapshots.find? row.startSnapshotId = some start ∧
    db.savingsSnapshots.find? row.endSnapshotId = some finish ∧
    row.nativeYpo = row.accruedInterest + finish.susdpPendingYield - start.susdpPendingYield

theorem Derived.empty : AnalyticsDatabase.empty.Derived where
  pending := fun _ mem => absurd mem List.not_mem_nil
  ypo := fun _ mem => absurd mem List.not_mem_nil

theorem AnalyticsDatabase.Derived.effect {db db' : AnalyticsDatabase} {call : AnalyticsCall}
    (effect : Effect db call db') (derived : db.Derived) : db'.Derived := by
  cases effect with
  | savingsSnapshot options blocks assetSnapshots row us ss kept grows usdp susdp pending =>
      constructor
      · intro other mem
        rcases mem_values_insertOrSelect mem with old | rfl
        · exact derived.pending other old
        · exact pending
      · intro interval mem
        -- the snapshots of an interval stay where they are
        obtain ⟨start, finish, starts, ends, ypo⟩ := derived.ypo interval mem
        have stays := extends_insertOrSelect SavingsChainSnapshot.key db.savingsSnapshots row
        exact ⟨start, finish, stays starts, stays ends, ypo⟩
  | interval options start finish accruedInterest nativeYpo starts ends ypo =>
      refine ⟨derived.pending, ?_⟩
      intro row mem
      rcases mem_values_insertOrSelect mem with old | rfl
      · exact derived.ypo row old
      · exact ⟨start.2, finish.2, starts, ends, ypo⟩
  | reconciled chainId savingsYieldId selected reconciliation =>
      refine ⟨derived.pending, ?_⟩
      intro row mem
      obtain ⟨id, stored, found, rfl⟩ := mem_values_update mem
      obtain ⟨start, finish, starts, ends, ypo⟩ := derived.ypo stored (mem_values_of_find? found)
      refine ⟨start, finish, ?_⟩
      split <;> exact ⟨starts, ends, ypo⟩
  | _ => exact ⟨derived.pending, derived.ypo⟩

theorem derived_run (viem : Viem) (keccak256 : String → String) (calls : List TimedCall) :
    (analyticsRun viem keccak256 calls .empty).Derived :=
  analyticsRun_invariant AnalyticsDatabase.Derived
    (fun _ derived => ⟨derived.pending, derived.ypo⟩) (fun effect => .effect effect) calls
    Derived.empty

/-! ## The row that is reconciled -/

/-- The snapshots of the narrow tables are found as those of the wide ones. -/
theorem find?_savings_snapshots {db : AnalyticsDatabase} {id : ℕ} {snapshot : SavingsChainSnapshot}
    (stored : db.savingsSnapshots.find? id = some snapshot) :
    db.savings.snapshots.find? (·.id = id) = some (snapshot.reconciliationRow id) := by
  suffices all : db.savings.snapshots.find? (·.id = id)
      = (db.savingsSnapshots.find? id).map (·.reconciliationRow id) by
    rw [all, stored]
    rfl
  rw [AnalyticsDatabase.savings, SerialTable.find?, List.find?_map, Option.map_map]
  show Option.map _ (db.savingsSnapshots.rows.find? fun row => decide (row.1 = id)) = _
  cases found : db.savingsSnapshots.rows.find? fun row => decide (row.1 = id) with
  | none => rfl
  | some row =>
      have same : row.1 = id := by simpa using List.find?_some found
      show some (row.2.reconciliationRow row.1) = some (row.2.reconciliationRow id)
      rw [same]

/-- **The stored yield is the yield of the contract**, for an interval that is picked up
for reconciliation. -/
theorem AnalyticsDatabase.Derived.nativeYpo_eq {db : AnalyticsDatabase} (derived : db.Derived)
    {chainId : ℕ} {savingsYieldId : Option ℕ} {row : YieldReconciliationRow}
    (selected : db.savings.selectInterval chainId savingsYieldId = some row) :
    row.nativeYpo = row.contractYpo := by
  obtain ⟨interval, mem, joined⟩ := List.mem_filterMap.mp
    (List.mem_of_mem_head? (Option.mem_def.mpr selected))
  obtain ⟨entry, stored, rfl⟩ := List.mem_map.mp (List.mem_filter.mp (mem_sortBy.mp mem)).1
  obtain ⟨start, finish, starts, ends, ypo⟩ :=
    derived.ypo entry.2 (mem_values_of_find? (find?_eq_some_iff.mpr stored))
  have startFound : db.savings.snapshots.find?
      (·.id = (entry.2.reconciliationRow entry.1).startSnapshotId) = some _ :=
    find?_savings_snapshots starts
  have endFound : db.savings.snapshots.find?
      (·.id = (entry.2.reconciliationRow entry.1).endSnapshotId) = some _ :=
    find?_savings_snapshots ends
  rw [SavingsDatabase.joinSnapshots, startFound, endFound] at joined
  cases joined
  have startPending := derived.pending start (mem_values_of_find? starts)
  have endPending := derived.pending finish (mem_values_of_find? ends)
  simp only [YieldReconciliationRow.contractYpo, SavingsChainSnapshot.reconciliationRow,
    SavingsYieldInterval.reconciliationRow]
  omega

/-! ## The identity -/

/-- The two figures of a result that are differences of others. -/
theorem result_differences {window : RateWindow} {events : List SavingsRateSegmentEvent}
    {result : SegmentedRateResult}
    (ok : integrateSegmentedRateWindow window events = .ok result) :
    result.predictedPendingYieldAtEnd
        = result.predictedTotalAssetsAtEnd - result.actualAssetsAtEnd ∧
      result.accruedVariance
        = result.emittedAccruedInterest - result.predictedAccruedInterest := by
  rw [integrateSegmentedRateWindow, integrateInOrder] at ok
  split at ok
  · cases ok
  · obtain ⟨state, -, rfl⟩ := map_eq_ok.mp ok
    exact ⟨rfl, rfl⟩

/-- A verdict of the segmented path, taken apart. -/
theorem reconcileSavingsYield_segmented {db db' : AnalyticsDatabase} {chainId : ℕ}
    {savingsYieldId : Option ℕ} {reconciliation : Reconciliation}
    {evidence : SegmentedRateEvidence}
    (result : db.reconcileSavingsYield chainId savingsYieldId = .ok (some reconciliation, db'))
    (segmented : reconciliation.evidence = .segmented evidence) :
    ∃ row events integrated, db.savings.selectInterval chainId savingsYieldId = some row ∧
      readRateEvents db.index chainId row.fromBlock row.toBlock = .ok events ∧
      integrateSegmentedRateWindow row.window events = .ok integrated ∧
      reconciliation = reconcileSegmented row integrated := by
  unfold AnalyticsDatabase.reconcileSavingsYield at result
  split at result
  · cases result
  · rename_i row selected
    obtain ⟨found, reconciled, result⟩ := bind_eq_ok.mp result
    cases result
    unfold reconcileRow at reconciled
    simp only at reconciled
    split at reconciled
    · obtain ⟨events, read, reconciled⟩ := bind_eq_ok.mp reconciled
      obtain ⟨integrated, run, reconciled⟩ := bind_eq_ok.mp reconciled
      cases reconciled
      exact ⟨row, events, integrated, selected, read, run, rfl⟩
    · -- the constant-rate path gives no evidence of this kind
      cases reconciled
      unfold reconcileConstantRateWindow at segmented
      split at segmented
      · cases segmented
      · simp only at segmented
        split at segmented <;> cases segmented

/-- **The reconciliation identity.**  The assets and the integrated yield of every accepted
window balance; and in every database that the calls lead to, where a reconciliation finds
the end state exact, the integrated yield and the stored one differ by the emitted interest
that the rate does not explain. -/
theorem reconciliation_identity (viem : Viem) (keccak256 : String → String) :
    (∀ (window : RateWindow) (events : List SavingsRateSegmentEvent)
        (result : SegmentedRateResult),
      integrateSegmentedRateWindow window events = .ok result →
        result.actualAssetsAtEnd = window.actualAssetsAtStart + result.emittedAccruedInterest
          + totalDeposits events - totalWithdrawals events ∧
        result.integratedYpo = result.predictedAccruedInterest
          + result.predictedPendingYieldAtEnd
          - (window.totalAssetsAtStart - window.actualAssetsAtStart)) ∧
    ∀ (calls : List TimedCall) (chainId : ℕ) (savingsYieldId : Option ℕ)
        (reconciliation : Reconciliation) (evidence : SegmentedRateEvidence)
        (db' : AnalyticsDatabase),
      let db := analyticsRun viem keccak256 calls .empty
      db.reconcileSavingsYield chainId savingsYieldId = .ok (some reconciliation, db') →
      reconciliation.evidence = .segmented evidence → reconciliation.status = .verified →
        ∃ row events integrated,
          db.savings.selectInterval chainId savingsYieldId = some row ∧
          readRateEvents db.index chainId row.fromBlock row.toBlock = .ok events ∧
          integrateSegmentedRateWindow row.window events = .ok integrated ∧
          evidence.independentlyIntegratedYpo - row.nativeYpo = -integrated.accruedVariance := by
  refine ⟨fun window events result ok => ⟨actualAssetsAtEnd_eq ok, ?_⟩, ?_⟩
  · rw [integratedYpo_eq ok, (result_differences ok).1]
  · intro calls chainId savingsYieldId reconciliation evidence db' db result segmented verified
    obtain ⟨row, events, integrated, selected, read, run, rfl⟩ :=
      reconcileSavingsYield_segmented result segmented
    refine ⟨row, events, integrated, selected, read, run, ?_⟩
    have matched : row.StateExact integrated := by
      by_contra inexact
      simp [reconcileSegmented, inexact] at verified
    cases segmented
    have derived := derived_run viem keccak256 calls
    show integrated.integratedYpo - row.nativeYpo = _
    rw [derived.nativeYpo_eq selected, integratedYpo_of_stateExact run matched,
      (result_differences run).2]
    omega

/-- A decoder that reads an interest of 10 out of every log. -/
def tenInterestViem : Viem :=
  ⟨fun _ _ _ => some ⟨"Accrued", some (.object [("interest", .bigint 10)])⟩, id⟩

/-- Ten blocks with one log of the vault. -/
def tenInterestChunk : Chunk where
  chainId := 1
  scope := "parallel-savings-ethereum-10-20-v1"
  runId := 0
  range := ⟨10, 20⟩
  logs := [⟨"0x0d45b129dc868963025db79a9074ea9c9e32cae4", some 15, some (sampleHash 15),
    some (sampleHash 1), some 0, some 0, ["Accrued(uint256)"], "0x", false⟩]
  blocks := [⟨15, sampleHash 15, "0x", 15⟩]
  anchor := none

/-- An interest of 10 is emitted at rate zero, between two snapshots. -/
def tenInterestCalls : List TimedCall :=
  [⟨0, .syncParallelAssetRegistry⟩, ⟨0, .persistChunk none tenInterestChunk blankCounters⟩,
    ⟨0, sampleCapture (sampleState 100 100 0) 10⟩,
    ⟨0, sampleCapture (sampleState 110 110 15) 20⟩,
    ⟨0, .calculateSavingsYieldForRange ⟨ethereumAdapter, tenInterestChunk.scope, 10, 20, none⟩⟩]

/-- What the check finds. -/
def tenInterestEvidence : SegmentedRateEvidence := ⟨0, -10, 110, 0, 110, 0, 0, 0, 15, 0, 0⟩

/-- The rate explains nothing of the 10 that were emitted and stored. -/
theorem reconciliation_identity_tenInterest :
    let db := analyticsRun tenInterestViem id tenInterestCalls .empty
    ∃ row events integrated, db.savings.selectInterval 1 none = some row ∧
      readRateEvents db.index 1 row.fromBlock row.toBlock = .ok events ∧
      integrateSegmentedRateWindow row.window events = .ok integrated ∧
      tenInterestEvidence.independentlyIntegratedYpo - row.nativeYpo
        = -integrated.accruedVariance := by
  intro db
  have answer : ((db.reconcileSavingsYield 1 none).toOption.map Prod.fst)
      = some (some ⟨.verified, .event_pending_and_rate_state_exact,
          .segmented tenInterestEvidence⟩) := by
    decide +kernel
  cases result : db.reconcileSavingsYield 1 none with
  | error error => rw [result] at answer; cases answer
  | ok pair =>
      obtain ⟨reconciliation, db'⟩ := pair
      rw [result] at answer
      cases answer
      exact (reconciliation_identity tenInterestViem id).2 tenInterestCalls 1 none _ _ db' result
        rfl rfl

end UsdpIndexer
