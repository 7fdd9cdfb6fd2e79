import UsdpIndexer.Analytics.SavingsYield
import UsdpIndexer.Analytics.UsdpSupply
import UsdpIndexer.Indexer.Ingest
import UsdpIndexer.Library.Machine

/-!
# The calls of the analytics

The writers of `UsdpIndexer.Analytics.SavingsSnapshots`, `UsdpIndexer.Analytics.UsdpSupply`
and `UsdpIndexer.Analytics.SavingsYield`, and the chunks of the indexer, on one database.
A call is a step; some time passes before it.  A call that throws has changed nothing, and
the error is the event that becomes visible.

`Effect` lists what a call that succeeds can have done to the tables, and `perform_effect`
says that the list is complete.
-/

namespace UsdpIndexer

open SerialTable FailingFold

/-- A call that writes the tables of the analytics. -/
inductive AnalyticsCall
  | persistChunk (fault : Option (PersistStatement × JsError)) (chunk : Chunk)
      (counters : IngestionCounters)
  | syncParallelAssetRegistry
  | captureSavingsChainSnapshot (options : CaptureSavingsChainSnapshotOptions)
  | captureUsdpSupplyComponent (options : CaptureUsdpSupplyOptions)
  | createGlobalSavingsSnapshot (maximumAgeSeconds : ℤ)
  | captureGlobalUsdpSupply (cycle : SupplyCycle)
  | calculateSavingsYieldForRange (options : CalculateSavingsYieldOptions)
  | reconcileSavingsYield (chainId : ℕ) (savingsYieldId : Option ℕ)
  | createGlobalSavingsYield (windowStart windowEnd : ℤ)

/-- A call, some milliseconds after the one before. -/
structure TimedCall where
  wait : ℕ
  call : AnalyticsCall

section Step

variable (viem : Viem) (keccak256 : String → String)

/-- The database after a call. -/
def AnalyticsCall.perform (db : AnalyticsDatabase) :
    AnalyticsCall → Except JsError AnalyticsDatabase
  | .persistChunk fault chunk counters =>
      let outcome := UsdpIndexer.persistChunk viem fault chunk db.index counters
      outcome.result.map fun _ => { db with index := outcome.database }
  | .syncParallelAssetRegistry => .ok (UsdpIndexer.syncParallelAssetRegistry db)
  | .captureSavingsChainSnapshot options =>
      (UsdpIndexer.captureSavingsChainSnapshot options db).map Prod.snd
  | .captureUsdpSupplyComponent options =>
      (UsdpIndexer.captureUsdpSupplyComponent keccak256 options db).map Prod.snd
  | .createGlobalSavingsSnapshot maximumAgeSeconds =>
      .ok (UsdpIndexer.createGlobalSavingsSnapshot maximumAgeSeconds db).2
  | .captureGlobalUsdpSupply cycle =>
      .ok (UsdpIndexer.captureGlobalUsdpSupply keccak256 cycle db).2
  | .calculateSavingsYieldForRange options =>
      (UsdpIndexer.calculateSavingsYieldForRange options db).map Prod.snd
  | .reconcileSavingsYield chainId savingsYieldId =>
      (db.reconcileSavingsYield chainId savingsYieldId).map Prod.snd
  | .createGlobalSavingsYield windowStart windowEnd =>
      (UsdpIndexer.createGlobalSavingsYield windowStart windowEnd db).map Prod.snd

/-- One step: the time passes, and the call is made. -/
def analyticsStep (input : TimedCall) (db : AnalyticsDatabase) :
    AnalyticsDatabase × List JsError :=
  match input.call.perform viem keccak256 (db.wait input.wait) with
  | .ok db' => (db', [])
  | .error error => (db.wait input.wait, [error])

/-- The database after a sequence of calls. -/
def analyticsRun (calls : List TimedCall) (db : AnalyticsDatabase) : AnalyticsDatabase :=
  (Machine.run (analyticsStep viem keccak256) calls db).1

end Step

/-! ### A sample environment

Endpoints that answer everything: block `n` is mined `n` seconds after the epoch, and the
answers about a contract do not depend on the block. -/

/-- The adapter of the first savings chain. -/
def ethereumAdapter : SavingsChainAdapter :=
  savingsChainAdapter
    ⟨.usdp, 1, "ethereum", "Ethereum", "0x9b3a8f7cec208e247d97dee13313690977e24459",
      some 22639007⟩
    ⟨.susdp, 1, "ethereum", "Ethereum", "0x0d45b129dc868963025db79a9074ea9c9e32cae4",
      some 22816779⟩

/-- A vault at rate zero. -/
def sampleState (totalAssets actualAssets lastUpdate : ℕ) : SavingsStateRead where
  asset := "0x9b3a8f7cec208e247d97dee13313690977e24459"
  usdpTotalSupply := 1000
  susdpTotalAssets := totalAssets
  susdpActualAssets := actualAssets
  susdpTotalSupply := 100
  susdpSharePriceUsdp := 1
  susdpRate := 0
  susdpLastUpdate := lastUpdate
  susdpEstimatedApy := 0
  susdpMaxRate := 0
  susdpPauseState := 0

/-- A client with this state at every block. -/
def sampleSavingsClient (state : SavingsStateRead) : SavingsClient where
  getFinalizedBlock := .ok (sampleBlock 100)
  getBlockNumber := .ok 100
  getBlock := fun number => .ok (sampleBlock number)
  readSavingsState := fun _ => .ok state
  getStorageAt := fun _ _ => .ok none

/-- Capture a state at a block. -/
def sampleCapture (state : SavingsStateRead) (block : ℤ) : AnalyticsCall :=
  .captureSavingsChainSnapshot ⟨ethereumAdapter, sampleSavingsClient state, 0, none, some block⟩

/-! ## What a call can have done -/

/-- **Everything that a call can do to the tables.** -/
inductive Effect (db : AnalyticsDatabase) : AnalyticsCall → AnalyticsDatabase → Prop
  | nothing (call : AnalyticsCall) : Effect db call db
  | indexed (fault : Option (PersistStatement × JsError)) (chunk : Chunk)
      (counters : IngestionCounters) (index : Database) :
      Effect db (.persistChunk fault chunk counters) { db with index }
  | supplies (call : AnalyticsCall) (blocks : List BlockRow)
      (assetDeployments : List (ParallelAssetId × ℕ))
      (assetSnapshots : SerialTable AssetChainSnapshot)
      (supplyEvidence : List UsdpSupplySnapshotEvidence)
      (kept : KeyedTable.Extends BlockRow.key db.index.blocks blocks)
      (grows : db.assetSnapshots.Extends assetSnapshots) :
      Effect db call
        { db with
          index := { db.index with blocks := blocks }
          assetDeployments := assetDeployments
          assetSnapshots := assetSnapshots
          supplyEvidence := supplyEvidence }
  | globalSupply (cycle : SupplyCycle) (blocks : List BlockRow)
      (assetDeployments : List (ParallelAssetId × ℕ))
      (assetSnapshots : SerialTable AssetChainSnapshot)
      (supplyEvidence : List UsdpSupplySnapshotEvidence) (row : GlobalUsdpSupplySnapshot)
      (links : List GlobalUsdpSupplySnapshotComponent)
      (kept : KeyedTable.Extends BlockRow.key db.index.blocks blocks)
      (grows : db.assetSnapshots.Extends assetSnapshots)
      (linked : ∀ link ∈ links, link.globalSnapshotId = db.globalSupply.next ∧
        ∃ snapshot, assetSnapshots.find? link.assetSnapshotId = some snapshot) :
      Effect db (.captureGlobalUsdpSupply cycle)
        { db with
          index := { db.index with blocks := blocks }
          assetDeployments := assetDeployments
          assetSnapshots := assetSnapshots
          supplyEvidence := supplyEvidence
          globalSupply := db.globalSupply.insert row
          globalSupplyComponents := db.globalSupplyComponents ++ links }
  | savingsSnapshot (options : CaptureSavingsChainSnapshotOptions) (blocks : List BlockRow)
      (assetSnapshots : SerialTable AssetChainSnapshot) (row : SavingsChainSnapshot)
      (us ss : AssetChainSnapshot)
      (kept : KeyedTable.Extends BlockRow.key db.index.blocks blocks)
      (grows : db.assetSnapshots.Extends assetSnapshots)
      (usdp : assetSnapshots.find? row.usdpSnapshotId = some us)
      (susdp : assetSnapshots.find? row.susdpSnapshotId = some ss)
      (pending : row.susdpTotalAssets = row.susdpActualAssets + row.susdpPendingYield) :
      Effect db (.captureSavingsChainSnapshot options)
        { db with
          index := { db.index with blocks := blocks }
          assetSnapshots := assetSnapshots
          savingsSnapshots := (db.savingsSnapshots.insertOrSelect SavingsChainSnapshot.key row).2 }
  | globalSavings (maximumAgeSeconds : ℤ) :
      Effect db (.createGlobalSavingsSnapshot maximumAgeSeconds)
        (createGlobalSavingsSnapshot maximumAgeSeconds db).2
  | interval (options : CalculateSavingsYieldOptions) (start finish : ℕ × SavingsChainSnapshot)
      (accruedInterest nativeYpo : ℤ) (starts : db.savingsSnapshots.find? start.1 = some start.2)
      (ends : db.savingsSnapshots.find? finish.1 = some finish.2)
      (ypo : nativeYpo
        = accruedInterest + finish.2.susdpPendingYield - start.2.susdpPendingYield)
      (nonneg : 0 ≤ nativeYpo) :
      Effect db (.calculateSavingsYieldForRange options)
        { db with
          yields := (db.yields.insertOrSelect SavingsYieldInterval.key
            (options.interval start finish accruedInterest nativeYpo db.clock)).2 }
  | reconciled (chainId : ℕ) (savingsYieldId : Option ℕ) (row : YieldReconciliationRow)
      (reconciliation : Reconciliation)
      (selected : db.savings.selectInterval chainId savingsYieldId = some row)
      (result : reconcileRow row (readRateEvents db.index chainId row.fromBlock row.toBlock)
        = .ok reconciliation)
      (decided : reconciliation.status ≠ .candidate) :
      Effect db (.reconcileSavingsYield chainId savingsYieldId)
        (db.setStatus row.id reconciliation.status)
  | globalYield (windowStart windowEnd : ℤ) (ordered : windowStart < windowEnd) :
      Effect db (.createGlobalSavingsYield windowStart windowEnd)
        (storeGlobalYield (db.yieldAggregate windowStart windowEnd) windowStart windowEnd db).2

/-- A boundary snapshot is a stored one. -/
theorem AnalyticsDatabase.find?_of_boundarySnapshot {db : AnalyticsDatabase}
    {options : CalculateSavingsYieldOptions} {block : ℤ} {row : ℕ × SavingsChainSnapshot}
    (selected : db.boundarySnapshot options block = some row) :
    db.savingsSnapshots.find? row.1 = some row.2 := by
  have chosen := SelectFirst.mem_of_mem_distinctOn (List.mem_of_find?_eq_some selected)
  exact find?_eq_some_iff.mpr (List.mem_filter.mp chosen).1

theorem insertYield_eq_ok {row : SavingsYieldInterval} {db db' : AnalyticsDatabase} {id : ℕ}
    (result : insertYield row db = .ok (id, db')) :
    db' = { db with
      yields := (db.yields.insertOrSelect SavingsYieldInterval.key row).2 } := by
  unfold insertYield at result
  -- the two checks, and then the insert
  iterate 2
    split at result
    · cases result
  exact (insertOrReuse_eq_ok result).1

theorem calculateSavingsYieldForRange_effect {options : CalculateSavingsYieldOptions}
    {db db' : AnalyticsDatabase} {answer : SavingsYieldResult}
    (result : calculateSavingsYieldForRange options db = .ok (answer, db')) :
    Effect db (.calculateSavingsYieldForRange options) db' := by
  unfold calculateSavingsYieldForRange at result
  split at result
  · cases result
  · obtain ⟨coverage, -, result⟩ := bind_eq_ok.mp result
    split at result
    · cases result
      exact .nothing _
    · split at result
      · rename_i start finish starts ends
        split at result
        · cases result
          exact .nothing _
        · obtain ⟨accruedInterest, -, result⟩ := bind_eq_ok.mp result
          obtain ⟨nativeYpo, ypo, result⟩ := bind_eq_ok.mp result
          obtain ⟨⟨savingsYieldId, stored⟩, inserted, result⟩ := bind_eq_ok.mp result
          cases result
          obtain rfl := insertYield_eq_ok inserted
          obtain ⟨same, nonneg⟩ := calculateNativeYpo_eq_ok.mp ypo
          exact .interval options start finish accruedInterest nativeYpo
            (db.find?_of_boundarySnapshot starts) (db.find?_of_boundarySnapshot ends) same nonneg
      · cases result
        exact .nothing _

theorem reconcileSavingsYield_effect {chainId : ℕ} {savingsYieldId : Option ℕ}
    {db db' : AnalyticsDatabase} {answer : Option Reconciliation}
    (result : db.reconcileSavingsYield chainId savingsYieldId = .ok (answer, db')) :
    Effect db (.reconcileSavingsYield chainId savingsYieldId) db' := by
  unfold AnalyticsDatabase.reconcileSavingsYield at result
  split at result
  · cases result
    exact .nothing _
  · rename_i row selected
    obtain ⟨reconciliation, reconciled, result⟩ := bind_eq_ok.mp result
    cases result
    split
    · exact .nothing _
    · rename_i decided
      exact .reconciled chainId savingsYieldId row reconciliation selected reconciled decided

/-- **The list is complete.** -/
theorem perform_effect {viem : Viem} {keccak256 : String → String} {call : AnalyticsCall}
    {db db' : AnalyticsDatabase} (result : call.perform viem keccak256 db = .ok db') :
    Effect db call db' := by
  cases call with
  | persistChunk fault chunk counters =>
      obtain ⟨_, -, rfl⟩ := map_eq_ok.mp result
      exact .indexed fault chunk counters _
  | syncParallelAssetRegistry =>
      cases result
      exact .supplies _ db.index.blocks _ _ _ (.refl _ _) (.refl _)
  | captureSavingsChainSnapshot options =>
      obtain ⟨⟨⟨snapshotId, reading⟩, _⟩, captured, rfl⟩ := map_eq_ok.mp result
      obtain ⟨_, read, captured⟩ := bind_eq_ok.mp captured
      obtain ⟨⟨_, _⟩, stored, captured⟩ := bind_eq_ok.mp captured
      cases captured
      obtain ⟨assetSnapshots, _, _, us, ss, rfl, grows, usdp, susdp, -⟩ :=
        storeSavingsChain_eq_ok stored
      exact .savingsSnapshot options _ assetSnapshots _ us ss
        (KeyedTable.extends_insertNew _ _ _) grows usdp susdp (readSavingsChain_pendingYield read)
  | captureUsdpSupplyComponent options =>
      obtain ⟨⟨component, _⟩, captured, rfl⟩ := map_eq_ok.mp result
      obtain ⟨_, _, _, rfl, kept, grows⟩ := captureUsdpSupplyComponent_written captured
      exact .supplies _ _ _ _ _ kept grows
  | createGlobalSavingsSnapshot maximumAgeSeconds =>
      cases result
      exact .globalSavings maximumAgeSeconds
  | captureGlobalUsdpSupply cycle =>
      cases result
      have written := cycle.collect_written keccak256 usdpSupplyAdapters
        (UsdpIndexer.syncParallelAssetRegistry db)
      have linked := cycle.collect_linked keccak256 usdpSupplyAdapters
        (UsdpIndexer.syncParallelAssetRegistry db)
      unfold UsdpIndexer.captureGlobalUsdpSupply persistGlobalSnapshot
      generalize cycle.collect keccak256 usdpSupplyAdapters
        (UsdpIndexer.syncParallelAssetRegistry db) = collected at written linked ⊢
      obtain ⟨components, failed, _⟩ := collected
      obtain ⟨_, _, _, rfl, kept, grows⟩ := written
      refine .globalSupply cycle _ _ _ _ _ _ kept grows ?_
      intro link mem
      obtain ⟨component, captured, rfl⟩ := List.mem_map.mp mem
      exact ⟨rfl, linked component captured⟩
  | calculateSavingsYieldForRange options =>
      obtain ⟨⟨answer, _⟩, calculated, rfl⟩ := map_eq_ok.mp result
      exact calculateSavingsYieldForRange_effect calculated
  | reconcileSavingsYield chainId savingsYieldId =>
      obtain ⟨⟨answer, _⟩, reconciled, rfl⟩ := map_eq_ok.mp result
      exact reconcileSavingsYield_effect reconciled
  | createGlobalSavingsYield windowStart windowEnd =>
      obtain ⟨⟨answer, _⟩, created, rfl⟩ := map_eq_ok.mp result
      unfold createGlobalSavingsYield at created
      simp only at created
      split at created
      · cases created
      · split at created
        · cases created
        · cases created
          exact .globalYield windowStart windowEnd (by omega)

/-! ## Invariants of a run -/

/-- **What a step does**: its call takes effect, or is rejected and only the time has passed. -/
theorem analyticsStep_effect {viem : Viem} {keccak256 : String → String} (input : TimedCall)
    (db : AnalyticsDatabase) :
    Effect (db.wait input.wait) input.call (analyticsStep viem keccak256 input db).1 ∨
      (analyticsStep viem keccak256 input db).1 = db.wait input.wait := by
  unfold analyticsStep
  split
  · rename_i performed
    exact .inl (perform_effect performed)
  · exact .inr rfl

/-- **The invariant rule.**  What the passing of time and every effect of a call preserve
holds after every sequence of calls. -/
theorem analyticsRun_invariant {viem : Viem} {keccak256 : String → String}
    (P : AnalyticsDatabase → Prop) (waited : ∀ {db} wait, P db → P (db.wait wait))
    (preserved : ∀ {db call db'}, Effect db call db' → P db → P db') (calls : List TimedCall)
    {db : AnalyticsDatabase} (start : P db) : P (analyticsRun viem keccak256 calls db) := by
  refine Machine.run_invariant (fun db _ => P db) ?_ calls start
  intro input db _ holds
  rcases analyticsStep_effect input db with effect | idle
  · exact preserved effect (waited input.wait holds)
  · rw [idle]
    exact waited input.wait holds

end UsdpIndexer
