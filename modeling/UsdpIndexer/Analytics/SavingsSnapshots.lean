import UsdpIndexer.Analytics.AnalyticsStore

/-!
# Snapshots of the savings chains

`analytics/multichain-snapshots.ts` and the reader of `analytics/global-queries.ts`.

* `captureSavingsChainSnapshot` reads the state of one vault at a finalized block and
  stores it, once for a block and a version: a second capture returns the row of the
  first.
* `createGlobalSavingsSnapshot` adds up the latest snapshot of every chain and links the
  sum to its components.
* `readLatestGlobalSavings` reads the latest sum back with the rows it is linked to.

What the endpoints answer comes in as a record of answers.  A call is one transaction, so
an exception leaves the database as it was; the numbers that a transaction has drawn
before it is rolled back are not accounted for.
-/

namespace UsdpIndexer

open Text SerialTable SelectFirst StableOrder FailingFold

/-- The version under which snapshots of a chain are stored. -/
def MULTICHAIN_STATE_CALCULATION_VERSION : String := "parallel-savings-chain-state-v1-candidate"

/-- The version under which their sum is stored. -/
def GLOBAL_SAVINGS_CALCULATION_VERSION : String := "parallel-global-savings-state-v1-candidate"

/-! ## Reading a vault -/

/-- What the contracts of a chain answer at one block. -/
structure SavingsStateRead where
  asset : String
  usdpTotalSupply : ℕ
  susdpTotalAssets : ℕ
  susdpActualAssets : ℕ
  susdpTotalSupply : ℕ
  susdpSharePriceUsdp : ℕ
  susdpRate : ℕ
  susdpLastUpdate : ℕ
  susdpEstimatedApy : ℕ
  susdpMaxRate : ℕ
  susdpPauseState : ℕ
deriving DecidableEq, Repr

/-- What an endpoint answers.  The eleven reads of a state are one answer: they are made
in one request, or one by one where the chain has no multicall, and one that fails fails
them all. -/
structure SavingsClient where
  getFinalizedBlock : Except JsError RpcBlock
  getBlockNumber : Except JsError ℤ
  getBlock : ℤ → Except JsError RpcBlock
  readSavingsState : ℤ → Except JsError SavingsStateRead
  getStorageAt : (address : String) → ℤ → Except JsError (Option String)

/-- What `captureSavingsChainSnapshot` is called with. -/
structure CaptureSavingsChainSnapshotOptions where
  adapter : SavingsChainAdapter
  client : SavingsClient
  finalityLag : ℤ
  calculationVersion? : Option String
  blockNumber : Option ℤ

/-- The version that is asked for, or the current one. -/
def CaptureSavingsChainSnapshotOptions.calculationVersion
    (options : CaptureSavingsChainSnapshotOptions) : String :=
  options.calculationVersion?.getD MULTICHAIN_STATE_CALCULATION_VERSION

/-- The latest block that counts as final, as the chain has it. -/
def SavingsClient.finalizedBlock (client : SavingsClient) (adapter : SavingsChainAdapter)
    (finalityLag : ℤ) : Except JsError RpcBlock :=
  if adapter.finality = .rpcFinalized then client.getFinalizedBlock
  else do
    let head ← client.getBlockNumber
    client.getBlock (head - finalityLag)

/-- The block that was asked for, or the finalized one. -/
def CaptureSavingsChainSnapshotOptions.snapshotBlock
    (options : CaptureSavingsChainSnapshotOptions) : Except JsError RpcBlock :=
  match options.blockNumber with
  | none => options.client.finalizedBlock options.adapter options.finalityLag
  | some blockNumber => options.client.getBlock blockNumber

/-- The address in the last twenty bytes of a storage slot, in lower case. -/
def implementationAddressFromSlot (value : Option String) : Except JsError (Option String) :=
  match value with
  | none => .ok none
  | some slot =>
      if slot = "" ∨ slot = "0x" then .ok none
      else
        let digits := slot.toList.drop (slot.length - 40)
        let rawAddress := "0x" ++ String.ofList digits
        if digits = List.replicate 40 '0' then .ok none
        else if isHex 40 (toLowerCase rawAddress) then .ok (some (toLowerCase rawAddress))
        else .error ⟨s!"Address \"{rawAddress}\" is invalid."⟩

/-- A slot that cannot be read counts as an empty one. -/
def SavingsClient.readImplementation (client : SavingsClient) (address : String)
    (blockNumber : ℤ) : Except JsError String := do
  let slot := match client.getStorageAt address blockNumber with
    | .ok slot => slot
    | .error _ => none
  let implementation ← implementationAddressFromSlot slot
  return implementation.getD ZERO_ADDRESS

/-- What has been read of a vault at a block. -/
structure SavingsChainReading where
  block : StoredBlock
  state : SavingsStateRead
  susdpPendingYield : ℕ
  usdpImplementation : String
  susdpImplementation : String
  assetRelationshipVerified : Bool
deriving DecidableEq, Repr

/-- A vault that names another token makes the snapshot invalid. -/
def SavingsChainReading.snapshotStatus (reading : SavingsChainReading) : SnapshotStatus :=
  if reading.assetRelationshipVerified then .candidate else .invalid

/-- `new Date(Number(block.timestamp) * 1_000)` -/
def StoredBlock.date (block : StoredBlock) : ℤ := block.timestamp * 1000

/-- The block with its null checks passed and its hash in lower case. -/
def completeBlock (incomplete : String) (block : RpcBlock) : Except JsError StoredBlock :=
  match block.number, block.hash with
  | some number, some hash =>
      if hash = "" then .error ⟨incomplete⟩
      else .ok ⟨number, toLowerCase hash, block.parentHash, block.timestamp⟩
  | _, _ => .error ⟨incomplete⟩

/-- The requests of `captureSavingsChainSnapshot`. -/
def readSavingsChain (options : CaptureSavingsChainSnapshotOptions) :
    Except JsError SavingsChainReading := do
  let adapter := options.adapter
  let client := options.client
  let rpcBlock ← options.snapshotBlock
  let block ← completeBlock s!"{adapter.chainName} finalized block is incomplete" rpcBlock
  let state ← client.readSavingsState block.number
  let usdpImplementation ← client.readImplementation adapter.usdp.address block.number
  let susdpImplementation ← client.readImplementation adapter.susdp.address block.number
  let susdpPendingYield ← calculatePendingYield state.susdpTotalAssets state.susdpActualAssets
  return {
    block := block
    state := state
    susdpPendingYield := susdpPendingYield
    usdpImplementation := usdpImplementation
    susdpImplementation := susdpImplementation
    assetRelationshipVerified := toLowerCase state.asset = toLowerCase adapter.usdp.address }

/-! ## Storing it -/

/-- The rows of `asset_chain_snapshots` that a reading makes. -/
def SavingsChainReading.assetSnapshot (reading : SavingsChainReading)
    (adapter : SavingsChainAdapter) (calculationVersion : String) (assetId : ParallelAssetId) :
    AssetChainSnapshot where
  assetId := assetId
  chainId := adapter.chainId
  blockNumber := reading.block.number
  blockHash := reading.block.hash
  blockTimestamp := reading.block.date
  totalSupply := match assetId with
    | .usdp => reading.state.usdpTotalSupply
    | .susdp => reading.state.susdpTotalSupply
  snapshotStatus := reading.snapshotStatus
  manifestVersion := adapter.manifestVersion
  calculationVersion := calculationVersion

/-- The row of the vault, with the ids of the rows of its two assets. -/
def SavingsChainReading.savingsSnapshot (reading : SavingsChainReading)
    (adapter : SavingsChainAdapter) (calculationVersion : String)
    (usdpSnapshotId susdpSnapshotId : ℕ) (createdAt : ℤ) : SavingsChainSnapshot where
  chainId := adapter.chainId
  blockNumber := reading.block.number
  blockHash := reading.block.hash
  blockTimestamp := reading.block.date
  usdpSnapshotId := usdpSnapshotId
  susdpSnapshotId := susdpSnapshotId
  susdpTotalAssets := reading.state.susdpTotalAssets
  susdpActualAssets := reading.state.susdpActualAssets
  susdpPendingYield := reading.susdpPendingYield
  susdpSharePriceUsdp := reading.state.susdpSharePriceUsdp
  susdpRate := reading.state.susdpRate
  susdpLastUpdate := reading.state.susdpLastUpdate
  susdpEstimatedApy := reading.state.susdpEstimatedApy
  susdpMaxRate := reading.state.susdpMaxRate
  susdpPauseState := reading.state.susdpPauseState
  usdpImplementation := reading.usdpImplementation
  susdpImplementation := reading.susdpImplementation
  assetRelationshipVerified := reading.assetRelationshipVerified
  snapshotStatus := reading.snapshotStatus
  manifestVersion := adapter.manifestVersion
  calculationVersion := calculationVersion
  createdAt := createdAt

/-- The insert into `savings_chain_snapshots`, under its checks. -/
def insertSavingsSnapshot (row : SavingsChainSnapshot) (db : AnalyticsDatabase) :
    Except JsError (ℕ × AnalyticsDatabase) :=
  if 255 < row.susdpPauseState then
    .error ⟨"new row for relation \"savings_chain_snapshots\" violates check constraint " ++
      "\"savings_chain_snapshots_pause_check\""⟩
  else if ¬ isHex 40 row.usdpImplementation then
    .error ⟨"new row for relation \"savings_chain_snapshots\" violates check constraint " ++
      "\"savings_chain_snapshots_usdp_impl_check\""⟩
  else if ¬ isHex 40 row.susdpImplementation then
    .error ⟨"new row for relation \"savings_chain_snapshots\" violates check constraint " ++
      "\"savings_chain_snapshots_susdp_impl_check\""⟩
  else if db.savingsSnapshots.idOf SavingsChainSnapshot.key row.key = none ∧
      ¬ db.index.hasBlock row.chainId row.blockNumber then
    .error ⟨"insert or update on table \"savings_chain_snapshots\" violates foreign key " ++
      "constraint \"savings_chain_snapshots_block_fk\""⟩
  else
    insertOrReuse SavingsChainSnapshot.key "Savings snapshot upsert lost its row"
      db.savingsSnapshots row fun savingsSnapshots => { db with savingsSnapshots }

/-- The transaction of `captureSavingsChainSnapshot`. -/
def storeSavingsChain (adapter : SavingsChainAdapter) (calculationVersion : String)
    (reading : SavingsChainReading) (db : AnalyticsDatabase) :
    Except JsError (ℕ × AnalyticsDatabase) := do
  let asset := reading.assetSnapshot adapter calculationVersion
  let db ← insertFinalizedBlock
    s!"{adapter.chainName} block hash drift at {reading.block.number}" adapter.chainId
    reading.block db
  let (usdpSnapshotId, db) ←
    insertAssetSnapshot "Asset snapshot upsert lost its row" (asset .usdp) db
  let (susdpSnapshotId, db) ←
    insertAssetSnapshot "Asset snapshot upsert lost its row" (asset .susdp) db
  insertSavingsSnapshot
    (reading.savingsSnapshot adapter calculationVersion usdpSnapshotId susdpSnapshotId db.clock) db

/-- `captureSavingsChainSnapshot`: the number of the snapshot, and what was read. -/
def captureSavingsChainSnapshot (options : CaptureSavingsChainSnapshotOptions)
    (db : AnalyticsDatabase) : Except JsError ((ℕ × SavingsChainReading) × AnalyticsDatabase) := do
  let reading ← readSavingsChain options
  let (snapshotId, db) ← storeSavingsChain options.adapter options.calculationVersion reading db
  return ((snapshotId, reading), db)

/-! ### What a capture has done -/

theorem insertSavingsSnapshot_eq_ok {row : SavingsChainSnapshot} {db db' : AnalyticsDatabase}
    {id : ℕ} (result : insertSavingsSnapshot row db = .ok (id, db')) :
    db' = { db with
      savingsSnapshots := (db.savingsSnapshots.insertOrSelect SavingsChainSnapshot.key row).2 } ∧
    (db.savingsSnapshots.insertOrSelect SavingsChainSnapshot.key row).1 = some id := by
  unfold insertSavingsSnapshot at result
  -- the checks and the foreign key, and then the insert
  iterate 4
    split at result
    · cases result
  exact insertOrReuse_eq_ok result

/-- The tables after a snapshot has been stored: its block is in place, both assets have a
row, and so has the vault. -/
theorem storeSavingsChain_eq_ok {adapter : SavingsChainAdapter} {calculationVersion : String}
    {reading : SavingsChainReading} {db db' : AnalyticsDatabase} {snapshotId : ℕ}
    (result : storeSavingsChain adapter calculationVersion reading db = .ok (snapshotId, db')) :
    ∃ assetSnapshots usdpSnapshotId susdpSnapshotId us ss,
      let row := reading.savingsSnapshot adapter calculationVersion usdpSnapshotId susdpSnapshotId
        db.clock
      db' = { db with
        index := { db.index with
          blocks := KeyedTable.insertNew BlockRow.key db.index.blocks
            [blockRow adapter.chainId reading.block] }
        assetSnapshots := assetSnapshots
        savingsSnapshots :=
          (db.savingsSnapshots.insertOrSelect SavingsChainSnapshot.key row).2 } ∧
      db.assetSnapshots.Extends assetSnapshots ∧
      assetSnapshots.find? usdpSnapshotId = some us ∧
      assetSnapshots.find? susdpSnapshotId = some ss ∧
      (db.savingsSnapshots.insertOrSelect SavingsChainSnapshot.key row).1 = some snapshotId := by
  obtain ⟨db₁, inserted, result⟩ := bind_eq_ok.mp result
  obtain ⟨⟨usdpSnapshotId, db₂⟩, usdp, result⟩ := bind_eq_ok.mp result
  obtain ⟨⟨susdpSnapshotId, db₃⟩, susdp, result⟩ := bind_eq_ok.mp result
  obtain rfl := insertFinalizedBlock_eq_ok inserted
  obtain ⟨rfl, usdpId⟩ := insertAssetSnapshot_eq_ok usdp
  obtain ⟨rfl, susdpId⟩ := insertAssetSnapshot_eq_ok susdp
  obtain ⟨rfl, returned⟩ := insertSavingsSnapshot_eq_ok result
  obtain ⟨_, us, usReturned, usFound, -⟩ := find?_insertOrSelect AssetChainSnapshot.key
    db.assetSnapshots (reading.assetSnapshot adapter calculationVersion .usdp)
  obtain ⟨_, ss, ssReturned, ssFound, -⟩ := find?_insertOrSelect AssetChainSnapshot.key
    (db.assetSnapshots.insertOrSelect AssetChainSnapshot.key
      (reading.assetSnapshot adapter calculationVersion .usdp)).2
    (reading.assetSnapshot adapter calculationVersion .susdp)
  obtain rfl := Option.some.inj (usdpId.symm.trans usReturned)
  obtain rfl := Option.some.inj (susdpId.symm.trans ssReturned)
  have grows := extends_insertOrSelect AssetChainSnapshot.key
    (db.assetSnapshots.insertOrSelect AssetChainSnapshot.key
      (reading.assetSnapshot adapter calculationVersion .usdp)).2
    (reading.assetSnapshot adapter calculationVersion .susdp)
  exact ⟨_, usdpSnapshotId, susdpSnapshotId, us, ss, rfl,
    (extends_insertOrSelect _ _ _).trans grows, grows usFound, ssFound, returned⟩

/-- The pending yield of a reading is what its total has over its actual assets. -/
theorem readSavingsChain_pendingYield {options : CaptureSavingsChainSnapshotOptions}
    {reading : SavingsChainReading} (result : readSavingsChain options = .ok reading) :
    reading.state.susdpTotalAssets
      = reading.state.susdpActualAssets + reading.susdpPendingYield := by
  obtain ⟨rpcBlock, -, result⟩ := bind_eq_ok.mp result
  obtain ⟨block, -, result⟩ := bind_eq_ok.mp result
  obtain ⟨state, -, result⟩ := bind_eq_ok.mp result
  obtain ⟨usdpImplementation, -, result⟩ := bind_eq_ok.mp result
  obtain ⟨susdpImplementation, -, result⟩ := bind_eq_ok.mp result
  obtain ⟨susdpPendingYield, pending, result⟩ := bind_eq_ok.mp result
  cases result
  exact calculatePendingYield_eq_ok.mp pending

/-! ## The global sum -/

/-- A snapshot with its number and the supplies it is joined with. -/
structure SavingsSnapshotJoin where
  id : ℕ
  snapshot : SavingsChainSnapshot
  usdpTotalSupply : ℕ
  susdpTotalSupply : ℕ
deriving DecidableEq, Repr

/-- A snapshot joined with the two asset snapshots that it refers to. -/
def AnalyticsDatabase.joinAssets (db : AnalyticsDatabase) (id : ℕ)
    (snapshot : SavingsChainSnapshot) : Option SavingsSnapshotJoin := do
  let us ← db.assetSnapshots.find? snapshot.usdpSnapshotId
  let ss ← db.assetSnapshots.find? snapshot.susdpSnapshotId
  return ⟨id, snapshot, us.totalSupply, ss.totalSupply⟩

/-- Of every savings chain the snapshot of the latest block, and of these the newest. -/
def AnalyticsDatabase.latestSavings (db : AnalyticsDatabase) : List SavingsSnapshotJoin :=
  distinctOn (·.snapshot.chainId)
    (fun a b => lexCompare (·.snapshot.blockTimestamp) (·.snapshot.createdAt) b a)
    ((db.savingsSnapshots.rows.filter fun row => row.2.chainId ∈ savingsChainIds).filterMap
      fun row => db.joinAssets row.1 row.2)

/-- What of the row goes into the sum. -/
def SavingsSnapshotJoin.component (row : SavingsSnapshotJoin) : SavingsAggregationComponent where
  snapshotId := row.id
  chainId := row.snapshot.chainId
  blockTimestamp := row.snapshot.blockTimestamp
  snapshotStatus := row.snapshot.snapshotStatus
  usdpTotalSupply := row.usdpTotalSupply
  susdpTotalSupply := row.susdpTotalSupply
  susdpTotalAssets := row.snapshot.susdpTotalAssets
  susdpEstimatedApy := row.snapshot.susdpEstimatedApy

/-- The row of `global_savings_snapshots` for a sum. -/
def SavingsAggregate.globalSnapshot (aggregate : SavingsAggregate) (asOf : ℤ) :
    GlobalSavingsSnapshot where
  asOf := asOf
  expectedChainCount := savingsChainIds.length
  includedChainCount := aggregate.included.length
  coverageStatus := aggregate.coverageStatus
  usdpSupplyOnSavingsChains := aggregate.usdpSupplyOnSavingsChains
  susdpTotalAssets := aggregate.susdpTotalAssets
  susdpTotalSupply := aggregate.susdpTotalSupply
  susdpWeightedEstimatedApy := aggregate.weightedEstimatedApy
  oldestComponentTimestamp := aggregate.oldestComponentTimestamp
  newestComponentTimestamp := aggregate.newestComponentTimestamp
  maximumComponentAgeSeconds := aggregate.maximumComponentAgeSeconds
  includedChainIds := aggregate.includedChainIds
  missingChainIds := aggregate.missingChainIds
  staleChainIds := aggregate.staleChainIds
  calculationVersion := GLOBAL_SAVINGS_CALCULATION_VERSION
  createdAt := asOf

/-- The sum over the latest snapshots, as of the time of the call. -/
def AnalyticsDatabase.savingsAggregate (db : AnalyticsDatabase) (maximumAgeSeconds : ℤ) :
    SavingsAggregate :=
  aggregateSavingsComponents (db.latestSavings.map (·.component)) savingsChainIds db.clock
    maximumAgeSeconds

/-- `createGlobalSavingsSnapshot`.  No constraint can fail: the components have different
chains, which are among those expected, and no amount is negative. -/
def createGlobalSavingsSnapshot (maximumAgeSeconds : ℤ) (db : AnalyticsDatabase) :
    (ℕ × SavingsAggregate) × AnalyticsDatabase :=
  let aggregate := db.savingsAggregate maximumAgeSeconds
  let globalSnapshotId := db.globalSavings.next
  ((globalSnapshotId, aggregate), { db with
    globalSavings := db.globalSavings.insert (aggregate.globalSnapshot db.clock)
    globalSavingsComponents := db.globalSavingsComponents ++ aggregate.included.map
      fun component => ⟨globalSnapshotId, component.snapshotId, component.chainId⟩ })

/-! ## Reading it back -/

/-- `status` of what is read: that of the coverage, unless the components have become too
old. -/
inductive ReadStatus
  | stale
  | coverage (status : CoverageStatus)
deriving DecidableEq, Repr

/-- What `readLatestGlobalSavings` returns where there is a snapshot. -/
structure GlobalSavingsReading where
  status : ReadStatus
  globalSnapshotId : ℕ
  snapshot : GlobalSavingsSnapshot
  checkedAt : ℤ
  maximumAllowedAgeSeconds : ℤ
  currentMaximumAgeSeconds : Option ℤ
  stale : Bool
  components : List SavingsSnapshotJoin
deriving DecidableEq, Repr

/-- The latest global snapshot, by the time it is about and then by its creation. -/
def AnalyticsDatabase.latestGlobalSavings (db : AnalyticsDatabase) :
    Option (ℕ × GlobalSavingsSnapshot) :=
  first (fun a b => lexCompare (·.2.asOf) (·.2.createdAt) b a) db.globalSavings.rows

/-- The snapshots that a global snapshot is linked to, by chain. -/
def AnalyticsDatabase.linkedSavings (db : AnalyticsDatabase) (globalSnapshotId : ℕ) :
    List SavingsSnapshotJoin :=
  sortBy (fun a b : SavingsSnapshotJoin => (a.snapshot.chainId : ℤ) - b.snapshot.chainId)
    ((db.globalSavingsComponents.filter (·.globalSnapshotId = globalSnapshotId)).filterMap
      fun link => do
        let snapshot ← db.savingsSnapshots.find? link.savingsSnapshotId
        db.joinAssets link.savingsSnapshotId snapshot)

/-- What is shown of a stored status. -/
def readStatus (currentlyStale : Bool) (coverageStatus : CoverageStatus) : ReadStatus :=
  if currentlyStale then .stale else .coverage coverageStatus

/-- `readLatestGlobalSavings`: `none` where there is no snapshot. -/
def readLatestGlobalSavings (now maximumAgeSeconds : ℤ) (db : AnalyticsDatabase) :
    Option GlobalSavingsReading :=
  db.latestGlobalSavings.map fun latest =>
    let currentMaximumAgeSeconds := latest.2.oldestComponentTimestamp.map (ageSeconds now)
    let currentlyStale := currentMaximumAgeSeconds.all (· > maximumAgeSeconds)
    { status := readStatus currentlyStale latest.2.coverageStatus
      globalSnapshotId := latest.1
      snapshot := latest.2
      checkedAt := now
      maximumAllowedAgeSeconds := maximumAgeSeconds
      currentMaximumAgeSeconds := currentMaximumAgeSeconds
      stale := currentlyStale
      components := db.linkedSavings latest.1 }

end UsdpIndexer
