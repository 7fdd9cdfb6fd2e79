import UsdpIndexer.Analytics.SavingsSnapshots

/-!
# The supply on all chains

`analytics/usdp-supply.ts`: a cycle reads the supply of USDp on each of the twenty-four
chains at a finalized block, stores what it has read, and adds up the components that
are recent, aligned and sound.

`captureUsdpSupplyComponent` stores a supply once for a block: a later cycle that finds
the same block finalized gets the row of the first.  Its component still carries the
supply that it has just read, and it is the components that `persistGlobalSnapshot` adds
up.

The endpoints of a chain come in as their answers, one record for each endpoint, and so
does the `keccak256` of the client library.  The captures of a cycle run side by side in
the source; they concern different chains, and here they run one after the other.
-/

namespace UsdpIndexer

open Text SerialTable FailingFold

/-- The version of the list of the chains. -/
def GLOBAL_USDP_MANIFEST_VERSION : String := "parallel-usdp-24-chain-registry-2026-07-15-candidate"

/-- The version under which the global supply is stored. -/
def GLOBAL_USDP_CALCULATION_VERSION : String := "parallel-global-usdp-supply-v1-candidate"

/-- The symbol and the decimals of USDp in `parallelAssetRegistry`. -/
def usdpSymbol : String := "USDp"

/-- The decimals of USDp. -/
def usdpDecimals : ℕ := 18

/-! ## Reading one chain -/

/-- What an endpoint answers. -/
structure SupplyClient where
  getFinalizedBlock : Except JsError RpcBlock
  getBlockNumber : Except JsError ℤ
  getBlock : ℤ → Except JsError RpcBlock
  getBytecode : ℤ → Except JsError (Option String)
  readName : ℤ → Except JsError String
  readSymbol : ℤ → Except JsError String
  readDecimals : ℤ → Except JsError ℕ
  readTotalSupply : ℤ → Except JsError ℕ

/-- The block is further from the time of observation than is allowed. -/
def isBlockTimestampOutsideAlignment (blockTimestamp observedAt alignmentMaximumSkewSeconds : ℤ) :
    Bool :=
  let observedAtSeconds := observedAt / 1000
  let delta := observedAtSeconds - blockTimestamp
  let absoluteDelta := if delta < 0 then -delta else delta
  absoluteDelta > alignmentMaximumSkewSeconds

/-- The finalized block, or the one behind the head by the given lag: on a chain without
the tag, and where the tag fails or points to a block that is not aligned. -/
def SupplyClient.finalizedBlock (client : SupplyClient) (adapter : UsdpSupplyAdapter)
    (finalityLag observedAt alignmentMaximumSkewSeconds : ℤ) :
    Except JsError (RpcBlock × FinalityMode) :=
  let lagging (finalityMode : FinalityMode) : Except JsError (RpcBlock × FinalityMode) := do
    let head ← client.getBlockNumber
    let block ← client.getBlock (head - finalityLag)
    return (block, finalityMode)
  if adapter.finality = .confirmationLag then lagging .confirmationLag
  else
    match client.getFinalizedBlock with
    | .ok block =>
        if isBlockTimestampOutsideAlignment block.timestamp observedAt
            alignmentMaximumSkewSeconds then lagging .confirmationLagFallback
        else .ok (block, .rpcFinalized)
    | .error _ => lagging .confirmationLagFallback

/-- What `captureUsdpSupplyComponent` is called with. -/
structure CaptureUsdpSupplyOptions where
  adapter : UsdpSupplyAdapter
  client : SupplyClient
  rpcSource : SupplyRpcSource
  finalityLag : ℤ
  observedAt? : Option ℤ
  alignmentMaximumSkewSeconds? : Option ℤ

/-- What has been read of a chain at a block. -/
structure UsdpSupplyReading where
  block : StoredBlock
  finalityMode : FinalityMode
  totalSupply : ℕ
  metadataVerified : Bool
  observedName : String
  observedSymbol : String
  observedDecimals : ℕ
  codeHash : String
deriving DecidableEq, Repr

/-- A token with other metadata makes the snapshot invalid. -/
def UsdpSupplyReading.snapshotStatus (reading : UsdpSupplyReading) : SnapshotStatus :=
  if reading.metadataVerified then .candidate else .invalid

/-- The requests of `captureUsdpSupplyComponent`. -/
def readUsdpSupply (keccak256 : String → String) (options : CaptureUsdpSupplyOptions)
    (now : ℤ) : Except JsError UsdpSupplyReading := do
  let client := options.client
  let chainName := options.adapter.deployment.chainName
  let finalized ← client.finalizedBlock options.adapter options.finalityLag
    (options.observedAt?.getD now) (options.alignmentMaximumSkewSeconds?.getD 1800)
  let block ← completeBlock s!"{chainName} block incomplete" finalized.1
  let bytecode ← client.getBytecode block.number
  let observedName ← client.readName block.number
  let observedSymbol ← client.readSymbol block.number
  let observedDecimals ← client.readDecimals block.number
  let totalSupply ← client.readTotalSupply block.number
  let code := bytecode.getD ""
  if code = "" ∨ code = "0x" then .error ⟨s!"{chainName} USDp code missing"⟩
  else
    return {
      block := block
      finalityMode := finalized.2
      totalSupply := totalSupply
      metadataVerified := observedName = "USDp" ∧ observedSymbol = usdpSymbol ∧
        observedDecimals = usdpDecimals
      observedName := observedName
      observedSymbol := observedSymbol
      observedDecimals := observedDecimals
      codeHash := toLowerCase (keccak256 code) }

/-! ## Storing it -/

/-- The row of the supply. -/
def UsdpSupplyReading.assetSnapshot (reading : UsdpSupplyReading)
    (adapter : UsdpSupplyAdapter) : AssetChainSnapshot where
  assetId := .usdp
  chainId := adapter.deployment.chainId
  blockNumber := reading.block.number
  blockHash := reading.block.hash
  blockTimestamp := reading.block.date
  totalSupply := reading.totalSupply
  snapshotStatus := reading.snapshotStatus
  manifestVersion := adapter.manifestVersion
  calculationVersion := GLOBAL_USDP_CALCULATION_VERSION

/-- The row of what was read beside the supply. -/
def UsdpSupplyReading.evidence (reading : UsdpSupplyReading) (rpcSource : SupplyRpcSource)
    (assetSnapshotId : ℕ) : UsdpSupplySnapshotEvidence where
  assetSnapshotId := assetSnapshotId
  codeHash := reading.codeHash
  observedName := reading.observedName
  observedSymbol := reading.observedSymbol
  observedDecimals := reading.observedDecimals
  metadataVerified := reading.metadataVerified
  finalityMode := reading.finalityMode
  rpcSource := rpcSource

/-- `insert into usdp_supply_snapshot_evidence … on conflict … do update`. -/
def upsertEvidence (row : UsdpSupplySnapshotEvidence) (db : AnalyticsDatabase) :
    Except JsError AnalyticsDatabase :=
  if ¬ isHex 64 row.codeHash then
    .error ⟨"new row for relation \"usdp_supply_snapshot_evidence\" violates check constraint " ++
      "\"usdp_supply_evidence_code_hash_check\""⟩
  else if 255 < row.observedDecimals then
    .error ⟨"new row for relation \"usdp_supply_snapshot_evidence\" violates check constraint " ++
      "\"usdp_supply_evidence_decimals_check\""⟩
  else
    .ok { db with
      supplyEvidence := KeyedTable.upsert UsdpSupplySnapshotEvidence.assetSnapshotId
        (fun _ excluded => excluded) db.supplyEvidence row }

/-- The component that is returned: what was read, under the number of what is stored. -/
def UsdpSupplyReading.component (reading : UsdpSupplyReading) (adapter : UsdpSupplyAdapter)
    (rpcSource : SupplyRpcSource) (assetSnapshotId : ℕ) : UsdpSupplyComponent where
  assetSnapshotId := assetSnapshotId
  chainId := adapter.deployment.chainId
  chainSlug := adapter.deployment.chainSlug
  chainName := adapter.deployment.chainName
  blockNumber := reading.block.number
  blockHash := reading.block.hash
  blockTimestamp := reading.block.date
  totalSupply := reading.totalSupply
  snapshotStatus := reading.snapshotStatus
  metadataVerified := reading.metadataVerified
  observedName := reading.observedName
  observedSymbol := reading.observedSymbol
  observedDecimals := reading.observedDecimals
  codeHash := reading.codeHash
  finalityMode := reading.finalityMode
  rpcSource := rpcSource
  manifestVersion := adapter.manifestVersion

/-- The transaction of `captureUsdpSupplyComponent`. -/
def storeUsdpSupply (adapter : UsdpSupplyAdapter) (rpcSource : SupplyRpcSource)
    (reading : UsdpSupplyReading) (db : AnalyticsDatabase) :
    Except JsError (UsdpSupplyComponent × AnalyticsDatabase) := do
  let chainId := adapter.deployment.chainId
  let db ← insertFinalizedBlock
    s!"Block hash drift on chain {chainId} at {reading.block.number}" chainId reading.block db
  let (assetSnapshotId, db) ←
    insertAssetSnapshot "USDp snapshot upsert lost its row" (reading.assetSnapshot adapter) db
  let db ← upsertEvidence (reading.evidence rpcSource assetSnapshotId) db
  return (reading.component adapter rpcSource assetSnapshotId, db)

/-- The supply of a chain is read and stored. -/
def captureUsdpSupplyComponent (keccak256 : String → String) (options : CaptureUsdpSupplyOptions)
    (db : AnalyticsDatabase) : Except JsError (UsdpSupplyComponent × AnalyticsDatabase) := do
  let reading ← readUsdpSupply keccak256 options db.clock
  storeUsdpSupply options.adapter options.rpcSource reading db

theorem upsertEvidence_eq_ok {row : UsdpSupplySnapshotEvidence} {db db' : AnalyticsDatabase}
    (result : upsertEvidence row db = .ok db') :
    ∃ supplyEvidence, db' = { db with supplyEvidence } := by
  unfold upsertEvidence at result
  split at result
  · cases result
  · split at result
    · cases result
    · cases result
      exact ⟨_, rfl⟩

/-- What a stored supply has done: its block is in place, and the component carries the
number of the row under its key. -/
theorem storeUsdpSupply_eq_ok {adapter : UsdpSupplyAdapter} {rpcSource : SupplyRpcSource}
    {reading : UsdpSupplyReading} {db db' : AnalyticsDatabase} {component : UsdpSupplyComponent}
    (result : storeUsdpSupply adapter rpcSource reading db = .ok (component, db')) :
    ∃ assetSnapshotId supplyEvidence,
      component = reading.component adapter rpcSource assetSnapshotId ∧
      db' = { db with
        index := { db.index with
          blocks := KeyedTable.insertNew BlockRow.key db.index.blocks
            [blockRow adapter.deployment.chainId reading.block] }
        assetSnapshots := (db.assetSnapshots.insertOrSelect AssetChainSnapshot.key
          (reading.assetSnapshot adapter)).2
        supplyEvidence := supplyEvidence } ∧
      (db.assetSnapshots.insertOrSelect AssetChainSnapshot.key (reading.assetSnapshot adapter)).1
        = some assetSnapshotId := by
  obtain ⟨db₁, inserted, result⟩ := bind_eq_ok.mp result
  obtain ⟨⟨assetSnapshotId, db₂⟩, snapshot, result⟩ := bind_eq_ok.mp result
  obtain ⟨db₃, evidence, result⟩ := bind_eq_ok.mp result
  obtain rfl := insertFinalizedBlock_eq_ok inserted
  obtain ⟨rfl, returned⟩ := insertAssetSnapshot_eq_ok snapshot
  obtain ⟨supplyEvidence, rfl⟩ := upsertEvidence_eq_ok evidence
  cases result
  exact ⟨assetSnapshotId, supplyEvidence, rfl, rfl, returned⟩

/-! ## Failover -/

/-- Try one endpoint after the other; each is asked once. -/
def tryEndpoints {α : Type} (operation : SupplyClient → Except JsError α) (lastError : JsError) :
    List SupplyClient → Except JsError α
  | [] => .error lastError
  | client :: clients =>
      match operation client with
      | .ok answer => .ok answer
      | .error error => tryEndpoints operation error clients

/-- `runWithSupplyRpcFailover` with `SUPPLY_RPC_ATTEMPTS_PER_URL`, which is one. -/
def runWithSupplyRpcFailover {α : Type} (clients : List SupplyClient)
    (operation : SupplyClient → Except JsError α) : Except JsError α :=
  match clients with
  | [] => .error ⟨"USDp supply RPC candidate list is empty"⟩
  | client :: others =>
      match operation client with
      | .ok answer => .ok answer
      | .error error =>
          match tryEndpoints operation error others with
          | .ok answer => .ok answer
          | .error lastError =>
              .error ⟨s!"All {clients.length} USDp supply RPC candidates failed after 1 " ++
                s!"attempt(s) each: {providerErrorMessage lastError}"⟩

theorem tryEndpoints_eq_ok {α : Type} {operation : SupplyClient → Except JsError α} {answer : α} :
    ∀ {clients : List SupplyClient} {lastError : JsError},
      tryEndpoints operation lastError clients = .ok answer
        ↔ clients.findSome? (fun client => (operation client).toOption) = some answer := by
  intro clients
  induction clients with
  | nil => intro lastError; simp [tryEndpoints]
  | cons client clients ih =>
      intro lastError
      rw [tryEndpoints, List.findSome?_cons]
      cases operation client with
      | ok first => simp [Except.toOption]
      | error error => simpa [Except.toOption] using ih

/-- The failover returns what the first endpoint returns that does not fail. -/
theorem runWithSupplyRpcFailover_eq_ok {α : Type} {clients : List SupplyClient}
    {operation : SupplyClient → Except JsError α} {answer : α} :
    runWithSupplyRpcFailover clients operation = .ok answer
      ↔ clients.findSome? (fun client => (operation client).toOption) = some answer := by
  cases clients with
  | nil => simp [runWithSupplyRpcFailover]
  | cons client others =>
      rw [runWithSupplyRpcFailover, List.findSome?_cons]
      cases operation client with
      | ok first => simp [Except.toOption]
      | error error =>
          show _ ↔ others.findSome? (fun client => (operation client).toOption) = some answer
          rw [← @tryEndpoints_eq_ok α operation answer others error]
          simp only
          cases tryEndpoints operation error others <;> simp

/-! ## A cycle -/

/-- `syncParallelAssetRegistry`, as far as the foreign keys need it. -/
def syncParallelAssetRegistry (db : AnalyticsDatabase) : AnalyticsDatabase :=
  { db with
    assetDeployments := KeyedTable.insertNew id db.assetDeployments
      ((usdpDeployments ++ susdpDeployments).map fun deployment =>
        (deployment.assetId, deployment.chainId)) }

/-- What a cycle is configured with and meets. -/
structure SupplyCycle where
  finalityLag : ℤ
  maximumAgeSeconds : ℤ
  alignmentMaximumSkewSeconds : ℤ
  rpcSource : (chainId : ℕ) → SupplyRpcSource
  clients : (chainId : ℕ) → List SupplyClient

/-- The chain ids a cycle expects. -/
def supplyChainIds : List ℕ := usdpSupplyAdapters.map (·.deployment.chainId)

namespace SupplyCycle

variable (keccak256 : String → String) (cycle : SupplyCycle)

/-- How a cycle calls for a chain. -/
def options (adapter : UsdpSupplyAdapter) (asOf : ℤ) (client : SupplyClient) :
    CaptureUsdpSupplyOptions where
  adapter := adapter
  client := client
  rpcSource := cycle.rpcSource adapter.deployment.chainId
  finalityLag := cycle.finalityLag
  observedAt? := some asOf
  alignmentMaximumSkewSeconds? := some cycle.alignmentMaximumSkewSeconds

/-- One chain of a cycle that observes at the time of the clock. -/
def attempt (adapter : UsdpSupplyAdapter) (db : AnalyticsDatabase) :
    Except JsError (UsdpSupplyComponent × AnalyticsDatabase) :=
  runWithSupplyRpcFailover (cycle.clients adapter.deployment.chainId) fun client =>
    captureUsdpSupplyComponent keccak256 (cycle.options adapter db.clock client) db

/-- The captures of a cycle: the components, the chains that failed, the database. -/
def collect : List UsdpSupplyAdapter → AnalyticsDatabase →
    List UsdpSupplyComponent × List ℕ × AnalyticsDatabase
  | [], db => ([], [], db)
  | adapter :: adapters, db =>
      match cycle.attempt keccak256 adapter db with
      | .ok (component, db) =>
          let (components, failed, db) := collect adapters db
          (component :: components, failed, db)
      | .error _ =>
          let (components, failed, db) := collect adapters db
          (components, adapter.deployment.chainId :: failed, db)

end SupplyCycle

/-- The row of `global_usdp_supply_snapshots` for a sum. -/
def UsdpSupplyAggregate.globalSnapshot (aggregate : UsdpSupplyAggregate)
    (alignmentMaximumSkewSeconds asOf : ℤ) : GlobalUsdpSupplySnapshot where
  asOf := asOf
  expectedChainCount := supplyChainIds.length
  includedChainCount := aggregate.included.length
  coverageStatus := aggregate.coverageStatus
  candidateTotalSupply := aggregate.candidateTotalSupply
  oldestComponentTimestamp := aggregate.oldestComponentTimestamp
  newestComponentTimestamp := aggregate.newestComponentTimestamp
  maximumComponentAgeSeconds := aggregate.maximumComponentAgeSeconds
  componentSkewSeconds := aggregate.componentSkewSeconds
  alignmentMaximumSkewSeconds := alignmentMaximumSkewSeconds
  includedChainIds := aggregate.includedChainIds
  missingChainIds := aggregate.missingChainIds
  staleChainIds := aggregate.staleChainIds
  failedChainIds := aggregate.failedChainIds
  manifestVersion := GLOBAL_USDP_MANIFEST_VERSION
  calculationVersion := GLOBAL_USDP_CALCULATION_VERSION
  createdAt := asOf

/-- The link of a global snapshot to a component. -/
def UsdpSupplyAggregate.link (aggregate : UsdpSupplyAggregate) (globalSnapshotId : ℕ)
    (component : UsdpSupplyComponent) : GlobalUsdpSupplySnapshotComponent :=
  let included := decide (component.chainId ∈ aggregate.includedChainIds)
  { globalSnapshotId := globalSnapshotId
    assetSnapshotId := component.assetSnapshotId
    chainId := component.chainId
    included := included
    exclusionReason :=
      if included then none
      else if !component.metadataVerified then some "metadata_invalid"
      else if component.chainId ∈ aggregate.staleChainIds then some "stale_or_misaligned"
      else some "excluded" }

/-- `persistGlobalSnapshot`.  No constraint can fail: the components have different
chains, hence different rows, and are among those expected. -/
def persistGlobalSnapshot (alignmentMaximumSkewSeconds : ℤ)
    (components : List UsdpSupplyComponent) (aggregate : UsdpSupplyAggregate)
    (db : AnalyticsDatabase) : ℕ × AnalyticsDatabase :=
  let globalSnapshotId := db.globalSupply.next
  (globalSnapshotId, { db with
    globalSupply :=
      db.globalSupply.insert (aggregate.globalSnapshot alignmentMaximumSkewSeconds db.clock)
    globalSupplyComponents :=
      db.globalSupplyComponents ++ components.map (aggregate.link globalSnapshotId) })

/-- What a cycle returns. -/
structure SupplyCycleResult where
  globalSnapshotId : ℕ
  aggregate : UsdpSupplyAggregate
  components : List UsdpSupplyComponent
  failedChainIds : List ℕ
deriving DecidableEq, Repr

/-- `captureGlobalUsdpSupply`. -/
def captureGlobalUsdpSupply (keccak256 : String → String) (cycle : SupplyCycle)
    (db : AnalyticsDatabase) : SupplyCycleResult × AnalyticsDatabase :=
  let (components, failed, db) :=
    cycle.collect keccak256 usdpSupplyAdapters (syncParallelAssetRegistry db)
  let aggregate := aggregateUsdpSupplyComponents components supplyChainIds failed db.clock
    cycle.maximumAgeSeconds cycle.alignmentMaximumSkewSeconds
  let (globalSnapshotId, db) :=
    persistGlobalSnapshot cycle.alignmentMaximumSkewSeconds components aggregate db
  (⟨globalSnapshotId, aggregate, components, failed⟩, db)

/-! ### What a capture and a cycle have done -/

/-- The tables that captures of supplies write to, the blocks and the asset snapshots
growing. -/
def SuppliesWritten (db db' : AnalyticsDatabase) : Prop :=
  ∃ blocks assetSnapshots supplyEvidence,
    db' = { db with
      index := { db.index with blocks := blocks }
      assetSnapshots := assetSnapshots
      supplyEvidence := supplyEvidence } ∧
    KeyedTable.Extends BlockRow.key db.index.blocks blocks ∧
    db.assetSnapshots.Extends assetSnapshots

theorem SuppliesWritten.refl (db : AnalyticsDatabase) : SuppliesWritten db db :=
  ⟨_, _, _, rfl, .refl _ _, .refl _⟩

theorem SuppliesWritten.trans {db db' db'' : AnalyticsDatabase} (first : SuppliesWritten db db')
    (second : SuppliesWritten db' db'') : SuppliesWritten db db'' := by
  obtain ⟨_, _, _, rfl, kept, grows⟩ := first
  obtain ⟨blocks, assetSnapshots, supplyEvidence, rfl, kept', grows'⟩ := second
  exact ⟨blocks, assetSnapshots, supplyEvidence, rfl, kept.trans kept', grows.trans grows'⟩

/-- A capture is a reading that could be stored. -/
theorem captureUsdpSupplyComponent_eq_ok {keccak256 : String → String}
    {options : CaptureUsdpSupplyOptions} {db db' : AnalyticsDatabase}
    {component : UsdpSupplyComponent} :
    captureUsdpSupplyComponent keccak256 options db = .ok (component, db') ↔
      ∃ reading, readUsdpSupply keccak256 options db.clock = .ok reading ∧
        storeUsdpSupply options.adapter options.rpcSource reading db = .ok (component, db') := by
  exact bind_eq_ok

theorem captureUsdpSupplyComponent_written {keccak256 : String → String}
    {options : CaptureUsdpSupplyOptions} {db db' : AnalyticsDatabase}
    {component : UsdpSupplyComponent}
    (result : captureUsdpSupplyComponent keccak256 options db = .ok (component, db')) :
    SuppliesWritten db db' := by
  obtain ⟨reading, -, stored⟩ := captureUsdpSupplyComponent_eq_ok.mp result
  obtain ⟨_, supplyEvidence, -, rfl, -⟩ := storeUsdpSupply_eq_ok stored
  exact ⟨_, _, supplyEvidence, rfl, KeyedTable.extends_insertNew _ _ _,
    extends_insertOrSelect _ _ _⟩

/-- The component that a capture returns is linked to a row. -/
theorem captureUsdpSupplyComponent_linked {keccak256 : String → String}
    {options : CaptureUsdpSupplyOptions} {db db' : AnalyticsDatabase}
    {component : UsdpSupplyComponent}
    (result : captureUsdpSupplyComponent keccak256 options db = .ok (component, db')) :
    ∃ row, db'.assetSnapshots.find? component.assetSnapshotId = some row := by
  obtain ⟨reading, -, stored⟩ := captureUsdpSupplyComponent_eq_ok.mp result
  obtain ⟨assetSnapshotId, supplyEvidence, rfl, rfl, returned⟩ := storeUsdpSupply_eq_ok stored
  obtain ⟨id, row, returned', found, -⟩ := find?_insertOrSelect AssetChainSnapshot.key
    db.assetSnapshots (reading.assetSnapshot options.adapter)
  obtain rfl := Option.some.inj (returned.symm.trans returned')
  exact ⟨row, found⟩

namespace SupplyCycle

variable (cycle : SupplyCycle) (keccak256 : String → String)

/-- An attempt that succeeds is a capture by one of the endpoints. -/
theorem attempt_eq_ok {cycle : SupplyCycle} {keccak256 : String → String}
    {adapter : UsdpSupplyAdapter} {db db' : AnalyticsDatabase}
    {component : UsdpSupplyComponent}
    (result : cycle.attempt keccak256 adapter db = .ok (component, db')) :
    ∃ client ∈ cycle.clients adapter.deployment.chainId,
      captureUsdpSupplyComponent keccak256 (cycle.options adapter db.clock client) db
        = .ok (component, db') := by
  obtain ⟨client, mem, answer⟩ :=
    List.exists_of_findSome?_eq_some (runWithSupplyRpcFailover_eq_ok.mp result)
  refine ⟨client, mem, ?_⟩
  revert answer
  cases captureUsdpSupplyComponent keccak256 (cycle.options adapter db.clock client) db with
  | ok answer => intro same; exact congrArg Except.ok (Option.some.inj same)
  | error error => intro none; cases none

theorem collect_written (adapters : List UsdpSupplyAdapter) :
    ∀ db : AnalyticsDatabase, SuppliesWritten db (cycle.collect keccak256 adapters db).2.2 := by
  induction adapters with
  | nil => exact .refl
  | cons adapter adapters ih =>
      intro db
      rw [collect]
      split
      · rename_i component db' success
        obtain ⟨client, -, captured⟩ := attempt_eq_ok success
        exact (captureUsdpSupplyComponent_written captured).trans (ih db')
      · exact ih db

theorem collect_linked (adapters : List UsdpSupplyAdapter) :
    ∀ (db : AnalyticsDatabase), ∀ component ∈ (cycle.collect keccak256 adapters db).1, ∃ row,
      (cycle.collect keccak256 adapters db).2.2.assetSnapshots.find? component.assetSnapshotId
        = some row := by
  induction adapters with
  | nil => exact fun _ _ mem => absurd mem List.not_mem_nil
  | cons adapter adapters ih =>
      intro db component mem
      rw [collect] at mem ⊢
      split
      · rename_i captured db' success
        rw [success] at mem
        rcases List.mem_cons.mp mem with rfl | rest
        · obtain ⟨client, -, stored⟩ := attempt_eq_ok success
          obtain ⟨row, found⟩ := captureUsdpSupplyComponent_linked stored
          -- the captures that follow leave the row where it is
          obtain ⟨_, _, _, same, -, grows⟩ := cycle.collect_written keccak256 adapters db'
          refine ⟨row, ?_⟩
          show (cycle.collect keccak256 adapters db').2.2.assetSnapshots.find? _ = _
          rw [same]
          exact grows found
        · exact ih db' component rest
      · rename_i error failure
        rw [failure] at mem
        exact ih db component mem

end SupplyCycle

end UsdpIndexer
