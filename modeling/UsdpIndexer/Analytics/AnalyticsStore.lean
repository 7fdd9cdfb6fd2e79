import UsdpIndexer.Analytics.ChainCoverage
import UsdpIndexer.Indexer.PersistChunk
import UsdpIndexer.Library.SelectFirst
import UsdpIndexer.Library.SerialTable

/-!
# The tables of the cross-chain analytics

The tables of `db/schema.ts` that hold chain snapshots, yield intervals and the global
rows made of them, beside those of the indexer.  A row type is a row without its number,
which `UsdpIndexer.Library.SerialTable` keeps; a numeric text column, which a check
confines to digits, is a natural number.  Times are milliseconds since the epoch, as in
a `Date`.

`created_at` is the time at which a row's transaction began.  The database has a clock
for it, which goes on from one call to the next.

Two writers are shared: `insertFinalizedBlock` puts the block of a snapshot in place, and
`insertAssetSnapshot` reuses a snapshot that is there already.
-/

namespace UsdpIndexer

open Text SerialTable

/-! ## Rows -/

/-- A row of `asset_chain_snapshots`. -/
structure AssetChainSnapshot where
  assetId : ParallelAssetId
  chainId : ℕ
  blockNumber : ℤ
  blockHash : String
  blockTimestamp : ℤ
  totalSupply : ℕ
  snapshotStatus : SnapshotStatus
  manifestVersion : String
  calculationVersion : String
deriving DecidableEq, Repr

/-- `asset_chain_snapshots_provenance_unique`. -/
def AssetChainSnapshot.key (row : AssetChainSnapshot) :
    ParallelAssetId × ℕ × ℤ × String × String :=
  (row.assetId, row.chainId, row.blockNumber, row.manifestVersion, row.calculationVersion)

/-- A row of `savings_chain_snapshots`. -/
structure SavingsChainSnapshot where
  chainId : ℕ
  blockNumber : ℤ
  blockHash : String
  blockTimestamp : ℤ
  usdpSnapshotId : ℕ
  susdpSnapshotId : ℕ
  susdpTotalAssets : ℕ
  susdpActualAssets : ℕ
  susdpPendingYield : ℕ
  susdpSharePriceUsdp : ℕ
  susdpRate : ℕ
  susdpLastUpdate : ℕ
  susdpEstimatedApy : ℕ
  susdpMaxRate : ℕ
  susdpPauseState : ℕ
  usdpImplementation : String
  susdpImplementation : String
  assetRelationshipVerified : Bool
  snapshotStatus : SnapshotStatus
  manifestVersion : String
  calculationVersion : String
  createdAt : ℤ
deriving DecidableEq, Repr

/-- `savings_chain_snapshots_provenance_unique`. -/
def SavingsChainSnapshot.key (row : SavingsChainSnapshot) : ℕ × ℤ × String × String :=
  (row.chainId, row.blockNumber, row.manifestVersion, row.calculationVersion)

/-- A row of `global_savings_snapshots`. -/
structure GlobalSavingsSnapshot where
  asOf : ℤ
  expectedChainCount : ℕ
  includedChainCount : ℕ
  coverageStatus : CoverageStatus
  usdpSupplyOnSavingsChains : ℤ
  susdpTotalAssets : ℤ
  susdpTotalSupply : ℤ
  susdpWeightedEstimatedApy : Option ℤ
  oldestComponentTimestamp : Option ℤ
  newestComponentTimestamp : Option ℤ
  maximumComponentAgeSeconds : Option ℤ
  includedChainIds : List ℕ
  missingChainIds : List ℕ
  staleChainIds : List ℕ
  calculationVersion : String
  createdAt : ℤ
deriving DecidableEq, Repr

/-- A row of `global_savings_snapshot_components`. -/
structure GlobalSavingsSnapshotComponent where
  globalSnapshotId : ℕ
  savingsSnapshotId : ℕ
  chainId : ℕ
deriving DecidableEq, Repr

/-- A row of `usdp_supply_snapshot_evidence`. -/
structure UsdpSupplySnapshotEvidence where
  assetSnapshotId : ℕ
  codeHash : String
  observedName : String
  observedSymbol : String
  observedDecimals : ℕ
  metadataVerified : Bool
  finalityMode : FinalityMode
  rpcSource : SupplyRpcSource
deriving DecidableEq, Repr

/-- A row of `global_usdp_supply_snapshots`; every one is written as a candidate, without
a verified supply. -/
structure GlobalUsdpSupplySnapshot where
  asOf : ℤ
  expectedChainCount : ℕ
  includedChainCount : ℕ
  coverageStatus : CoverageStatus
  candidateTotalSupply : ℤ
  oldestComponentTimestamp : Option ℤ
  newestComponentTimestamp : Option ℤ
  maximumComponentAgeSeconds : Option ℤ
  componentSkewSeconds : Option ℤ
  alignmentMaximumSkewSeconds : ℤ
  includedChainIds : List ℕ
  missingChainIds : List ℕ
  staleChainIds : List ℕ
  failedChainIds : List ℕ
  manifestVersion : String
  calculationVersion : String
  createdAt : ℤ
deriving DecidableEq, Repr

/-- A row of `global_usdp_supply_snapshot_components`. -/
structure GlobalUsdpSupplySnapshotComponent where
  globalSnapshotId : ℕ
  assetSnapshotId : ℕ
  chainId : ℕ
  included : Bool
  exclusionReason : Option String
deriving DecidableEq, Repr

/-- A row of `savings_yield_aggregates`. -/
structure SavingsYieldInterval where
  chainId : ℕ
  startSnapshotId : ℕ
  endSnapshotId : ℕ
  fromBlock : ℤ
  toBlock : ℤ
  windowStart : ℤ
  windowEnd : ℤ
  accruedInterest : ℤ
  pendingYieldAtStart : ℕ
  pendingYieldAtEnd : ℕ
  nativeYpo : ℤ
  coverageScope : String
  windowConvention : String
  reconciliationStatus : ReconciliationStatus
  manifestVersion : String
  calculationVersion : String
  createdAt : ℤ
deriving DecidableEq, Repr

/-- `savings_yield_provenance_range_unique`. -/
def SavingsYieldInterval.key (row : SavingsYieldInterval) : ℕ × ℤ × ℤ × String × String :=
  (row.chainId, row.fromBlock, row.toBlock, row.manifestVersion, row.calculationVersion)

/-- A row of `global_savings_yield_aggregates`. -/
structure GlobalSavingsYield where
  windowStart : ℤ
  windowEnd : ℤ
  expectedChainCount : ℕ
  includedChainCount : ℕ
  coverageStatus : CoverageStatus
  nativeYpo : ℤ
  includedChainIds : List ℕ
  missingChainIds : List ℕ
  unreconciledChainIds : List ℕ
  calculationVersion : String
  createdAt : ℤ
deriving DecidableEq, Repr

/-- `global_savings_yield_window_version_unique`. -/
def GlobalSavingsYield.key (row : GlobalSavingsYield) : ℤ × ℤ × String :=
  (row.windowStart, row.windowEnd, row.calculationVersion)

/-- A row of `global_savings_yield_components`. -/
structure GlobalSavingsYieldComponent where
  globalYieldId : ℕ
  savingsYieldId : ℕ
  chainId : ℕ
deriving DecidableEq, Repr

/-! ## The database -/

/-- The tables of the indexer, those of the analytics and the clock. -/
structure AnalyticsDatabase where
  index : Database
  clock : ℤ
  /-- The primary keys of `asset_deployments`. -/
  assetDeployments : List (ParallelAssetId × ℕ)
  assetSnapshots : SerialTable AssetChainSnapshot
  savingsSnapshots : SerialTable SavingsChainSnapshot
  globalSavings : SerialTable GlobalSavingsSnapshot
  globalSavingsComponents : List GlobalSavingsSnapshotComponent
  supplyEvidence : List UsdpSupplySnapshotEvidence
  globalSupply : SerialTable GlobalUsdpSupplySnapshot
  globalSupplyComponents : List GlobalUsdpSupplySnapshotComponent
  yields : SerialTable SavingsYieldInterval
  globalYields : SerialTable GlobalSavingsYield
  globalYieldComponents : List GlobalSavingsYieldComponent

/-- No row, at time zero. -/
def AnalyticsDatabase.empty : AnalyticsDatabase :=
  ⟨.empty, 0, [], .empty, .empty, .empty, [], [], .empty, [], .empty, .empty, []⟩

/-- The clock of a call: some time after the call before. -/
def AnalyticsDatabase.wait (milliseconds : ℕ) (db : AnalyticsDatabase) : AnalyticsDatabase :=
  { db with clock := db.clock + milliseconds + 1 }

/-! ## Blocks -/

/-- The statements that put a finalized block in place, unless another hash is stored for
its number. -/
def insertFinalizedBlock (drift : String) (chainId : ℕ) (block : StoredBlock)
    (db : AnalyticsDatabase) : Except JsError AnalyticsDatabase :=
  let existing := KeyedTable.lookup BlockRow.key db.index.blocks (chainId, block.number)
  if existing.any fun stored => toLowerCase stored.hash ≠ toLowerCase block.hash then
    .error ⟨drift⟩
  else
    (insertBlockRows chainId [block] db.index).map fun inserted : Unit × Database =>
      { db with index := inserted.2 }

/-- What a block that is in place has done: it has been stored, or it was there already
under the same hash. -/
theorem insertFinalizedBlock_eq_ok {drift : String} {chainId : ℕ} {block : StoredBlock}
    {db db' : AnalyticsDatabase} (result : insertFinalizedBlock drift chainId block db = .ok db') :
    db' = { db with index := { db.index with
      blocks := KeyedTable.insertNew BlockRow.key db.index.blocks [blockRow chainId block] } } := by
  unfold insertFinalizedBlock at result
  simp only at result
  split at result
  · cases result
  · obtain ⟨⟨_, index⟩, inserted, rfl⟩ := FailingFold.map_eq_ok.mp result
    unfold insertBlockRows at inserted
    simp only at inserted
    split at inserted
    · cases inserted
    · split at inserted
      · cases inserted
      · cases inserted
        rfl

/-! ## Reusing rows -/

/-- Insert a row into a table of the database unless its key is taken, and return the
number of the row under the key: `insert … on conflict … do nothing returning id`, and the
`select` for the conflict. -/
def insertOrReuse {Row Key : Type} [DecidableEq Key] (key : Row → Key) (lost : String)
    (table : SerialTable Row) (row : Row) (write : SerialTable Row → AnalyticsDatabase) :
    Except JsError (ℕ × AnalyticsDatabase) :=
  match table.insertOrSelect key row with
  | (some id, table) => .ok (id, write table)
  | (none, _) => .error ⟨lost⟩

theorem insertOrReuse_eq_ok {Row Key : Type} [DecidableEq Key] {key : Row → Key} {lost : String}
    {table : SerialTable Row} {row : Row} {write : SerialTable Row → AnalyticsDatabase} {id : ℕ}
    {db : AnalyticsDatabase} (result : insertOrReuse key lost table row write = .ok (id, db)) :
    db = write (table.insertOrSelect key row).2 ∧ (table.insertOrSelect key row).1 = some id := by
  unfold insertOrReuse at result
  split at result
  · rename_i insertion
    cases result
    rw [insertion]
    exact ⟨rfl, rfl⟩
  · cases result

/-- `insertAssetSnapshot`.  The foreign keys concern a row that goes in. -/
def insertAssetSnapshot (lost : String) (row : AssetChainSnapshot) (db : AnalyticsDatabase) :
    Except JsError (ℕ × AnalyticsDatabase) :=
  let conflict := db.assetSnapshots.idOf AssetChainSnapshot.key row.key
  if conflict = none ∧ (row.assetId, row.chainId) ∉ db.assetDeployments then
    .error ⟨"insert or update on table \"asset_chain_snapshots\" violates foreign key " ++
      "constraint \"asset_chain_snapshots_deployment_fk\""⟩
  else if conflict = none ∧ ¬ db.index.hasBlock row.chainId row.blockNumber then
    .error ⟨"insert or update on table \"asset_chain_snapshots\" violates foreign key " ++
      "constraint \"asset_chain_snapshots_block_fk\""⟩
  else
    insertOrReuse AssetChainSnapshot.key lost db.assetSnapshots row fun assetSnapshots =>
      { db with assetSnapshots }

theorem insertAssetSnapshot_eq_ok {lost : String} {row : AssetChainSnapshot}
    {db db' : AnalyticsDatabase} {id : ℕ}
    (result : insertAssetSnapshot lost row db = .ok (id, db')) :
    db' = { db with
      assetSnapshots := (db.assetSnapshots.insertOrSelect AssetChainSnapshot.key row).2 } ∧
    (db.assetSnapshots.insertOrSelect AssetChainSnapshot.key row).1 = some id := by
  unfold insertAssetSnapshot at result
  simp only at result
  split at result
  · cases result
  · split at result
    · cases result
    · exact insertOrReuse_eq_ok result

end UsdpIndexer
