import UsdpIndexer.Analytics.FlowAnalytics
import UsdpIndexer.Analytics.SavingsYield

/-!
# The vault on HyperEVM

`analytics/snapshots.ts`, `analytics/yield.ts` and `analytics/queries.ts`, which are older than
the tables of all chains and are kept beside them.

* `captureVaultSnapshot` reads the vault and the two price feeds at one finalized block.  The
  snapshot is stored once for a block and its versions; the prices of a block are those of its
  last capture.
* `calculateYieldForRange` makes a yield of two snapshots and the interest accrued between them.
* `readState`, `readRates` and `readPrices` show the latest snapshot, each joined with its two
  prices; `readLatestYield` shows the yield that reaches furthest.

The reads of a vault are one answer, since one that fails fails them all.  The transaction of a
capture leaves nothing behind if one of its statements fails.
-/

namespace UsdpIndexer

open Text SerialTable SelectFirst StableOrder FailingFold

/-- The version under which snapshots of the vault are stored. -/
def VAULT_SNAPSHOT_CALCULATION_VERSION : String := "parallel-usdp-vault-snapshot-v1-candidate"

/-- The version under which its yields are stored. -/
def YPO_CALCULATION_VERSION : String := "parallel-usdp-native-ypo-v1-candidate"

/-- Which blocks belong to the range of a yield. -/
def YPO_WINDOW_CONVENTION : String := "(start_block,end_block]"

/-! ## The protocol -/

/-- `expectedImplementation` of the two tokens in `hyperevmProtocol`, in lower case. -/
def hyperevmUsdpImplementation : String := "0x24cef236056834f38e9247a1fff6681dd313d3aa"

/-- The contract behind the proxy of the vault, as the manifest has it. -/
def hyperevmSusdpImplementation : String := "0x769f533139eb1723c41cadec243ce10bc4d400fd"

/-- `maximumAgeSeconds` of both price feeds. -/
def priceFeedMaximumAgeSeconds : ℤ := 43200

/-! ## Prices -/

/-- A round of a price feed. -/
structure PriceRoundInput where
  roundId : ℤ
  answer : ℤ
  startedAt : ℤ
  updatedAt : ℤ
  answeredInRound : ℤ
  decimals : ℤ
  description : String
deriving DecidableEq, Repr

/-- The `metadata` of a price, and its age. -/
structure PriceMetadata where
  provider : String
  description : String
  roundId : ℤ
  startedAt : ℤ
  updatedAt : ℤ
  answeredInRound : ℤ
  maximumAgeSeconds : ℤ
  ageSeconds : ℤ
deriving DecidableEq, Repr

/-- A price that has passed its checks. -/
structure EvaluatedPriceRound where
  priceUsdAtomic : ℤ
  priceDecimals : ℤ
  stale : Bool
  metadata : PriceMetadata
  positive : 0 < priceUsdAtomic
  decimals : 0 ≤ priceDecimals ∧ priceDecimals ≤ 36
  stale_iff : stale = true ↔ metadata.maximumAgeSeconds < metadata.ageSeconds
deriving DecidableEq, Repr

/-- A round is accepted if its price is positive, its decimals are in range and its time is at most
thirty seconds ahead of the block. -/
def evaluatePriceRound (round : PriceRoundInput) (blockTimestamp maximumAgeSeconds : ℤ) :
    Except JsError EvaluatedPriceRound :=
  if negative : round.answer ≤ 0 then .error ⟨"Price feed answer must be positive"⟩
  else if outside : round.decimals < 0 ∨ round.decimals > 36 then
    .error ⟨"Price feed decimals must be between 0 and 36"⟩
  else if round.updatedAt > blockTimestamp + 30 then
    .error ⟨"Price feed timestamp is ahead of the snapshot block"⟩
  else
    let ageSeconds :=
      if round.updatedAt > blockTimestamp then 0 else blockTimestamp - round.updatedAt
    .ok {
      priceUsdAtomic := round.answer
      priceDecimals := round.decimals
      stale := ageSeconds > maximumAgeSeconds
      metadata := {
        provider := "DIA"
        description := round.description
        roundId := round.roundId
        startedAt := round.startedAt
        updatedAt := round.updatedAt
        answeredInRound := round.answeredInRound
        maximumAgeSeconds := maximumAgeSeconds
        ageSeconds := ageSeconds }
      positive := not_le.mp negative
      decimals := ⟨not_lt.mp fun low => outside (.inl low),
        not_lt.mp fun high => outside (.inr high)⟩
      stale_iff := decide_eq_true_iff }

/-! ## The tables -/

/-- A row of `price_observations`. -/
structure PriceObservation where
  chainId : ℕ
  assetAddress : String
  blockNumber : ℤ
  observedAt : ℤ
  source : String
  price : EvaluatedPriceRound
  calculationVersion : String
deriving DecidableEq, Repr

/-- `price_observations_asset_block_source_unique`. -/
def PriceObservation.key (row : PriceObservation) : ℕ × String × ℤ × String :=
  (row.chainId, row.assetAddress, row.blockNumber, row.source)

/-- A row of `vault_snapshots`. -/
structure VaultSnapshot where
  chainId : ℕ
  blockNumber : ℤ
  blockHash : String
  blockTimestamp : ℤ
  usdpTotalSupply : ℕ
  susdpTotalAssets : ℕ
  susdpActualAssets : ℕ
  susdpTotalSupply : ℕ
  susdpPendingYield : ℕ
  susdpSharePriceUsdp : ℕ
  susdpRate : ℕ
  susdpLastUpdate : ℕ
  susdpEstimatedApr : ℕ
  susdpMaxRate : ℕ
  susdpPauseState : ℕ
  usdpImplementation : String
  susdpImplementation : String
  usdpPriceObservationId : ℕ
  susdpPriceObservationId : ℕ
  snapshotStatus : SnapshotStatus
  manifestVersion : String
  calculationVersion : String
  createdAt : ℤ
deriving DecidableEq, Repr

/-- `vault_snapshots_provenance_block_unique`. -/
def VaultSnapshot.key (row : VaultSnapshot) : ℕ × ℤ × String × String :=
  (row.chainId, row.blockNumber, row.manifestVersion, row.calculationVersion)

/-- A row of `yield_aggregates`. -/
structure VaultYield where
  chainId : ℕ
  startSnapshotId : ℕ
  endSnapshotId : ℕ
  fromBlock : ℤ
  toBlock : ℤ
  accruedInterest : ℤ
  pendingYieldAtStart : ℕ
  pendingYieldAtEnd : ℕ
  nativeYpo : ℤ
  windowConvention : String
  manifestVersion : String
  calculationVersion : String
  createdAt : ℤ
deriving DecidableEq, Repr

/-- `yield_aggregates_provenance_range_unique`. -/
def VaultYield.key (row : VaultYield) : ℕ × ℤ × ℤ × String × String :=
  (row.chainId, row.fromBlock, row.toBlock, row.manifestVersion, row.calculationVersion)

/-- The tables of the vault, beside those it shares with the rest of the program. -/
structure VaultDatabase where
  analytics : AnalyticsDatabase
  prices : SerialTable PriceObservation
  snapshots : SerialTable VaultSnapshot
  yields : SerialTable VaultYield

/-- No row. -/
def VaultDatabase.empty : VaultDatabase := ⟨.empty, .empty, .empty, .empty⟩

/-! ## Reading a vault -/

/-- What the contracts answer at one block. -/
structure VaultStateRead where
  usdpTotalSupply : ℕ
  susdpTotalAssets : ℕ
  susdpActualAssets : ℕ
  susdpTotalSupply : ℕ
  susdpSharePrice : ℕ
  susdpRate : ℕ
  susdpLastUpdate : ℕ
  susdpEstimatedApr : ℕ
  susdpMaxRate : ℕ
  susdpPauseState : ℕ
  usdpImplementationSlot : Option String
  susdpImplementationSlot : Option String
  usdpPriceRound : PriceRoundInput
  susdpPriceRound : PriceRoundInput
deriving DecidableEq, Repr

/-- What the client answers. -/
structure VaultClient where
  getBlockNumber : Except JsError ℤ
  getBlock : ℤ → Except JsError RpcBlock
  readVaultState : ℤ → Except JsError VaultStateRead

/-- What `captureVaultSnapshot` is called with. -/
structure CaptureVaultSnapshotOptions where
  client : VaultClient
  finalityLag : ℤ
  blockNumber? : Option ℤ
  manifestVersion? : Option String
  calculationVersion? : Option String

/-- What has been read of the vault at a block. -/
structure VaultReading where
  block : StoredBlock
  state : VaultStateRead
  pendingYield : ℕ
  usdpImplementation : String
  susdpImplementation : String
  usdpPrice : EvaluatedPriceRound
  susdpPrice : EvaluatedPriceRound
deriving DecidableEq, Repr

/-- The implementations are not those that the protocol expects. -/
def implementationDrift (usdpImplementation susdpImplementation : String) : Bool :=
  usdpImplementation ≠ hyperevmUsdpImplementation ||
    susdpImplementation ≠ hyperevmSusdpImplementation

/-- `snapshotStatus` of a capture. -/
def vaultStatus (usdpImplementation susdpImplementation : String) : SnapshotStatus :=
  if implementationDrift usdpImplementation susdpImplementation then .invalid else .candidate

/-- The block with its hash, which must be there. -/
def vaultBlock (blockNumber : ℤ) (block : RpcBlock) : Except JsError StoredBlock :=
  match block.hash with
  | some hash =>
      if hash = "" then .error ⟨"Snapshot block is missing its hash"⟩
      else .ok ⟨blockNumber, toLowerCase hash, block.parentHash, block.timestamp⟩
  | none => .error ⟨"Snapshot block is missing its hash"⟩

/-- What is made of the answers about a block. -/
def evaluateVault (block : StoredBlock) (state : VaultStateRead) : Except JsError VaultReading := do
  let pendingYield ← calculatePendingYield state.susdpTotalAssets state.susdpActualAssets
  let usdpImplementation? ← implementationAddressFromSlot state.usdpImplementationSlot
  let susdpImplementation? ← implementationAddressFromSlot state.susdpImplementationSlot
  match usdpImplementation?, susdpImplementation? with
  | some usdpImplementation, some susdpImplementation =>
      let usdpPrice ← evaluatePriceRound state.usdpPriceRound block.timestamp
        priceFeedMaximumAgeSeconds
      let susdpPrice ← evaluatePriceRound state.susdpPriceRound block.timestamp
        priceFeedMaximumAgeSeconds
      return ⟨block, state, pendingYield, usdpImplementation, susdpImplementation, usdpPrice,
        susdpPrice⟩
  | _, _ => .error ⟨"Snapshot implementation slot is empty"⟩

/-- The requests of `captureVaultSnapshot`. -/
def readVault (options : CaptureVaultSnapshotOptions) : Except JsError VaultReading := do
  let head ← options.client.getBlockNumber
  let finalizedHead := head - options.finalityLag
  let blockNumber := options.blockNumber?.getD finalizedHead
  if blockNumber > finalizedHead then
    .error ⟨s!"Snapshot block {blockNumber} exceeds finalized head {finalizedHead}"⟩
  else
    let rpcBlock ← options.client.getBlock blockNumber
    let block ← vaultBlock blockNumber rpcBlock
    let state ← options.client.readVaultState blockNumber
    evaluateVault block state

/-! ## Storing it -/

namespace VaultReading

variable (reading : VaultReading)

/-- The row of a price that has been accepted. -/
def priceObservation (assetAddress : String) (price : EvaluatedPriceRound)
    (calculationVersion : String) : PriceObservation where
  chainId := HYPEREVM_CHAIN_ID
  assetAddress := assetAddress
  blockNumber := reading.block.number
  observedAt := reading.block.date
  source := "DIA"
  price := price
  calculationVersion := calculationVersion

/-- The row of the vault, with the ids of its two prices. -/
def snapshot (usdpPriceObservationId susdpPriceObservationId : ℕ)
    (manifestVersion calculationVersion : String) (createdAt : ℤ) : VaultSnapshot where
  chainId := HYPEREVM_CHAIN_ID
  blockNumber := reading.block.number
  blockHash := reading.block.hash
  blockTimestamp := reading.block.date
  usdpTotalSupply := reading.state.usdpTotalSupply
  susdpTotalAssets := reading.state.susdpTotalAssets
  susdpActualAssets := reading.state.susdpActualAssets
  susdpTotalSupply := reading.state.susdpTotalSupply
  susdpPendingYield := reading.pendingYield
  susdpSharePriceUsdp := reading.state.susdpSharePrice
  susdpRate := reading.state.susdpRate
  susdpLastUpdate := reading.state.susdpLastUpdate
  susdpEstimatedApr := reading.state.susdpEstimatedApr
  susdpMaxRate := reading.state.susdpMaxRate
  susdpPauseState := reading.state.susdpPauseState
  usdpImplementation := reading.usdpImplementation
  susdpImplementation := reading.susdpImplementation
  usdpPriceObservationId := usdpPriceObservationId
  susdpPriceObservationId := susdpPriceObservationId
  snapshotStatus := vaultStatus reading.usdpImplementation reading.susdpImplementation
  manifestVersion := manifestVersion
  calculationVersion := calculationVersion
  createdAt := createdAt

end VaultReading

/-- The row a price becomes on conflict. -/
def mergePrice (stored excluded : PriceObservation) : PriceObservation :=
  { stored with
    observedAt := excluded.observedAt
    price := excluded.price
    calculationVersion := excluded.calculationVersion }

/-- `insertPriceObservation` -/
def insertPriceObservation (prices : SerialTable PriceObservation) (row : PriceObservation) :
    ℕ × SerialTable PriceObservation :=
  prices.upsert PriceObservation.key mergePrice row

/-- The insert into `vault_snapshots`, under its check. -/
def insertVaultSnapshot (row : VaultSnapshot) (db : VaultDatabase) :
    Except JsError (ℕ × VaultDatabase) :=
  if 255 < row.susdpPauseState then
    .error ⟨"new row for relation \"vault_snapshots\" violates check constraint " ++
      "\"vault_snapshots_pause_check\""⟩
  else
    match db.snapshots.insertOrSelect VaultSnapshot.key row with
    | (some id, snapshots) => .ok (id, { db with snapshots })
    | (none, _) => .error ⟨"Cannot read properties of undefined (reading 'id')"⟩

/-- The transaction of `captureVaultSnapshot`. -/
def storeVaultSnapshot (options : CaptureVaultSnapshotOptions) (reading : VaultReading)
    (db : VaultDatabase) : Except JsError (ℕ × VaultDatabase) := do
  let manifestVersion := options.manifestVersion?.getD hyperevmManifestVersion
  let calculationVersion := options.calculationVersion?.getD VAULT_SNAPSHOT_CALCULATION_VERSION
  let analytics ← insertFinalizedBlock
    s!"Block hash drift at snapshot block {reading.block.number}" HYPEREVM_CHAIN_ID reading.block
    db.analytics
  let usdp := insertPriceObservation db.prices
    (reading.priceObservation hyperevmUsdpAddress reading.usdpPrice calculationVersion)
  let susdp := insertPriceObservation usdp.2
    (reading.priceObservation hyperevmSusdpAddress reading.susdpPrice calculationVersion)
  insertVaultSnapshot
    (reading.snapshot usdp.1 susdp.1 manifestVersion calculationVersion db.analytics.clock)
    { db with analytics := analytics, prices := susdp.2 }

/-- `captureVaultSnapshot`: the number of the snapshot, and what was read.  A statement that
fails takes the transaction back. -/
def captureVaultSnapshot (options : CaptureVaultSnapshotOptions) (fault : Option JsError)
    (db : VaultDatabase) : Except JsError ((ℕ × VaultReading) × VaultDatabase) := do
  let reading ← readVault options
  match fault with
  | some error => .error error
  | none =>
      let (snapshotId, stored) ← storeVaultSnapshot options reading db
      return ((snapshotId, reading), stored)

/-! ## The yield between two snapshots -/

/-- What `calculateYieldForRange` is called with. -/
structure CalculateYieldOptions where
  scope : String
  fromBlock : ℤ
  toBlock : ℤ
  manifestVersion? : Option String
  calculationVersion? : Option String
deriving DecidableEq, Repr

namespace CalculateYieldOptions

variable (options : CalculateYieldOptions)

/-- The version that is asked for, or the current one. -/
def manifestVersion : String := options.manifestVersion?.getD hyperevmManifestVersion

/-- The version that is asked for, or the current one. -/
def calculationVersion : String := options.calculationVersion?.getD YPO_CALCULATION_VERSION

/-- The newest snapshot of the manifest at each of the two boundary blocks. -/
def boundarySnapshots (snapshots : SerialTable VaultSnapshot) : List (ℕ × VaultSnapshot) :=
  distinctOn (·.2.blockNumber) (fun a b => b.2.createdAt - a.2.createdAt)
    (snapshots.rows.filter fun row =>
      row.2.chainId = HYPEREVM_CHAIN_ID ∧ row.2.blockNumber ∈ [options.fromBlock, options.toBlock] ∧
        row.2.manifestVersion = options.manifestVersion)

/-- `byBlock.get(block)` -/
def boundarySnapshot (snapshots : SerialTable VaultSnapshot) (block : ℤ) :
    Option (ℕ × VaultSnapshot) :=
  (options.boundarySnapshots snapshots).find? (·.2.blockNumber = block)

/-- The row for a yield between two snapshots. -/
def row (start finish : ℕ × VaultSnapshot) (accruedInterest nativeYpo createdAt : ℤ) :
    VaultYield where
  chainId := HYPEREVM_CHAIN_ID
  startSnapshotId := start.1
  endSnapshotId := finish.1
  fromBlock := options.fromBlock
  toBlock := options.toBlock
  accruedInterest := accruedInterest
  pendingYieldAtStart := start.2.susdpPendingYield
  pendingYieldAtEnd := finish.2.susdpPendingYield
  nativeYpo := nativeYpo
  windowConvention := YPO_WINDOW_CONVENTION
  manifestVersion := options.manifestVersion
  calculationVersion := options.calculationVersion
  createdAt := createdAt

end CalculateYieldOptions

/-- What the calculation of a yield comes to. -/
inductive VaultYieldResult
  | coverageIncomplete (coverage : CoverageReport)
  | boundarySnapshotMissing (coverage : CoverageReport) (start finish : Bool)
  | boundarySnapshotInvalid (coverage : CoverageReport)
  | candidate (yieldAggregateId : ℕ) (coverage : CoverageReport) (row : VaultYield)
deriving DecidableEq, Repr

/-- The insert into `yield_aggregates`, under its checks. -/
def insertVaultYield (row : VaultYield) (db : VaultDatabase) :
    Except JsError (ℕ × VaultDatabase) :=
  if row.toBlock ≤ row.fromBlock then
    .error ⟨"new row for relation \"yield_aggregates\" violates check constraint " ++
      "\"yield_aggregates_range_check\""⟩
  else if row.accruedInterest < 0 ∨ row.nativeYpo < 0 then
    .error ⟨"new row for relation \"yield_aggregates\" violates check constraint " ++
      "\"yield_aggregates_amounts_check\""⟩
  else
    match db.yields.insertOrSelect VaultYield.key row with
    | (some id, yields) => .ok (id, { db with yields })
    | (none, _) => .error ⟨"Cannot read properties of undefined (reading 'id')"⟩

/-- Compute a yield and store it, from boundary snapshots that are there. -/
def storeYield (options : CalculateYieldOptions) (coverage : CoverageReport)
    (start finish : ℕ × VaultSnapshot) (db : VaultDatabase) :
    Except JsError (VaultYieldResult × VaultDatabase) := do
  let accruedInterest ← sumAccruedInterest db.analytics.index HYPEREVM_CHAIN_ID options.fromBlock
    options.toBlock
  let nativeYpo ← calculateNativeYpo accruedInterest start.2.susdpPendingYield
    finish.2.susdpPendingYield
  let row := options.row start finish accruedInterest nativeYpo db.analytics.clock
  let (yieldAggregateId, stored) ← insertVaultYield row db
  return (.candidate yieldAggregateId coverage row, stored)

/-- The yield between the two snapshots at the ends of a covered range, if both are there and
neither is invalid. -/
def calculateYieldForRange (options : CalculateYieldOptions) (db : VaultDatabase) :
    Except JsError (VaultYieldResult × VaultDatabase) :=
  if options.toBlock ≤ options.fromBlock then
    .error ⟨"YPO end block must be greater than its start block"⟩
  else do
    let coverage ← verifyCoverage db.analytics.index options.scope options.fromBlock
      options.toBlock HYPEREVM_CHAIN_ID
    if !coverage.complete then .ok (.coverageIncomplete coverage, db)
    else
      match options.boundarySnapshot db.snapshots options.fromBlock,
          options.boundarySnapshot db.snapshots options.toBlock with
      | some start, some finish =>
          if start.2.snapshotStatus = .invalid ∨ finish.2.snapshotStatus = .invalid then
            .ok (.boundarySnapshotInvalid coverage, db)
          else storeYield options coverage start finish db
      | start, finish =>
          .ok (.boundarySnapshotMissing coverage start.isNone finish.isNone, db)

/-! ## The readers -/

/-- A snapshot with its two prices. -/
structure VaultSnapshotJoin where
  snapshot : VaultSnapshot
  usdp : PriceObservation
  susdp : PriceObservation
deriving DecidableEq, Repr

namespace VaultDatabase

variable (db : VaultDatabase)

/-- A snapshot with the rows of its two prices. -/
def joinPrices (snapshot : VaultSnapshot) : Option VaultSnapshotJoin := do
  let up ← db.prices.find? snapshot.usdpPriceObservationId
  let sp ← db.prices.find? snapshot.susdpPriceObservationId
  return ⟨snapshot, up, sp⟩

/-- `block_number desc, created_at desc` -/
def latestFirst (a b : VaultSnapshotJoin) : ℤ :=
  lexCompare (·.snapshot.blockNumber) (·.snapshot.createdAt) b a

/-- The latest snapshot. -/
def latestSnapshot : Option VaultSnapshotJoin :=
  first latestFirst ((db.snapshots.values.filter (·.chainId = HYPEREVM_CHAIN_ID)).filterMap
    db.joinPrices)

end VaultDatabase

/-- What the reader of the rates returns. -/
structure VaultRates where
  status : SnapshotStatus
  blockNumber : ℤ
  blockTimestamp : ℤ
  rate : ℕ
  lastUpdate : ℕ
  estimatedApr : ℕ
  maxRate : ℕ
  pauseState : ℕ
  manifestVersion : String
  calculationVersion : String
deriving DecidableEq, Repr

/-- What the reader of the prices returns of one asset. -/
structure VaultPrice where
  priceUsdAtomic : ℤ
  decimals : ℤ
  source : String
  stale : Bool
  metadata : PriceMetadata
deriving DecidableEq, Repr

/-- What the reader of the prices returns. -/
structure VaultPrices where
  status : SnapshotStatus
  blockNumber : ℤ
  blockTimestamp : ℤ
  usdp : VaultPrice
  susdp : VaultPrice
deriving DecidableEq, Repr

/-- The columns of a price that are shown. -/
def PriceObservation.shown (row : PriceObservation) : VaultPrice :=
  ⟨row.price.priceUsdAtomic, row.price.priceDecimals, row.source, row.price.stale,
    row.price.metadata⟩

/-- What the readers answer; `none` is `unavailable`, with `snapshot_missing`. -/
def readState (db : VaultDatabase) : Option (SnapshotStatus × VaultSnapshotJoin) :=
  db.latestSnapshot.map fun snapshot => (snapshot.snapshot.snapshotStatus, snapshot)

/-- The rates of the latest snapshot. -/
def readRates (db : VaultDatabase) : Option VaultRates :=
  db.latestSnapshot.map fun ⟨snapshot, _, _⟩ =>
    { status := snapshot.snapshotStatus
      blockNumber := snapshot.blockNumber
      blockTimestamp := snapshot.blockTimestamp
      rate := snapshot.susdpRate
      lastUpdate := snapshot.susdpLastUpdate
      estimatedApr := snapshot.susdpEstimatedApr
      maxRate := snapshot.susdpMaxRate
      pauseState := snapshot.susdpPauseState
      manifestVersion := snapshot.manifestVersion
      calculationVersion := snapshot.calculationVersion }

/-- The prices of the latest snapshot. -/
def readPrices (db : VaultDatabase) : Option VaultPrices :=
  db.latestSnapshot.map fun ⟨snapshot, usdp, susdp⟩ =>
    { status := snapshot.snapshotStatus
      blockNumber := snapshot.blockNumber
      blockTimestamp := snapshot.blockTimestamp
      usdp := usdp.shown
      susdp := susdp.shown }

/-- `readLatestYield`; `none` is `unavailable`, with `reconciled_interval_missing`. -/
def readLatestYield (db : VaultDatabase) : Option VaultYield :=
  first (fun a b => lexCompare (·.toBlock) (·.createdAt) b a)
    (db.yields.values.filter (·.chainId = HYPEREVM_CHAIN_ID))

end UsdpIndexer
