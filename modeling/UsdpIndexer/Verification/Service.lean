import UsdpIndexer.Analytics.SavingsYield
import UsdpIndexer.Verification.Evaluators

/-!
# The verification suite

`runVerificationSuite` of `verification/service.ts` reads thirteen things of an interval in
`(fromBlock, toBlock]` and gives them to the evaluators: its two boundary snapshots, what its
events add up to, the coverage of its own scope and of the lifetime scope, the checkpoint,
and the rest.  A figure that is not trustworthy is left out, and so the check that needs it
becomes a warning.

The totals of the vault and of the token come from `readEventTotals`, and the USDp that has
reached or left the vault by other ways from `readDirectUnderlyingNet`.

What the endpoint answers comes in as a record of answers.  The run is returned; the tables
that it is written to are read by nothing here.
-/

namespace UsdpIndexer

open Text SelectFirst SerialTable StableOrder FailingFold

/-! ## What is there -/

/-- The columns of `price_observations` that are read here. -/
structure PriceObservationRow where
  chainId : ℕ
  observedAt : ℤ
deriving DecidableEq, Repr

/-- The tables that the suite reads. -/
structure VerificationDatabase where
  analytics : AnalyticsDatabase
  holders : HolderTables
  prices : List PriceObservationRow
  /-- The `updated_at` of a checkpoint. -/
  updatedAt : CheckpointRow → ℤ

/-- What an endpoint answers about a vault at a block. -/
structure VerificationClient where
  blockHash : ℤ → Except JsError (Option String)
  totalSupply : ℤ → Except JsError ℤ
  totalAssets : ℤ → Except JsError ℤ
  convertToAssets : (shares : ℤ) → ℤ → Except JsError ℤ

/-- What `runVerificationSuite` is called with; `now` is the clock. -/
structure RunVerificationSuiteOptions where
  adapter : SavingsChainAdapter
  client : VerificationClient
  scope : String
  fromBlock : ℤ
  toBlock : ℤ
  checkpointMaximumAgeSeconds : Option ℚ
  priceMaximumAgeSeconds : Option ℚ
  now : ℤ

/-- `lifetimeActivityScope` -/
def lifetimeActivityScope (adapter : SavingsChainAdapter) : String :=
  s!"parallel-assets-{adapter.chainSlug}-lifetime-v1"

/-! ## The boundaries -/

/-- What the suite reads of a snapshot at an end of its range. -/
structure BoundarySnapshotRow where
  blockNumber : ℤ
  blockHash : String
  blockTimestamp : ℤ
  usdpTotalSupply : ℕ
  susdpTotalSupply : ℕ
  susdpTotalAssets : ℕ
  susdpActualAssets : ℕ
  susdpRate : ℕ
  susdpLastUpdate : ℕ
  usdpImplementation : String
  susdpImplementation : String
deriving DecidableEq, Repr

/-- The columns that the suite selects. -/
def SavingsSnapshotJoin.boundaryRow (row : SavingsSnapshotJoin) : BoundarySnapshotRow where
  blockNumber := row.snapshot.blockNumber
  blockHash := row.snapshot.blockHash
  blockTimestamp := row.snapshot.blockTimestamp
  usdpTotalSupply := row.usdpTotalSupply
  susdpTotalSupply := row.susdpTotalSupply
  susdpTotalAssets := row.snapshot.susdpTotalAssets
  susdpActualAssets := row.snapshot.susdpActualAssets
  susdpRate := row.snapshot.susdpRate
  susdpLastUpdate := row.snapshot.susdpLastUpdate
  usdpImplementation := row.snapshot.usdpImplementation
  susdpImplementation := row.snapshot.susdpImplementation

/-- The snapshots at both ends. -/
structure Boundaries where
  start : Option BoundarySnapshotRow
  finish : Option BoundarySnapshotRow
deriving DecidableEq, Repr

/-- The newest snapshot at each of the two blocks. -/
def readBoundarySnapshots (db : AnalyticsDatabase) (chainId : ℕ) (fromBlock toBlock : ℤ) :
    Boundaries :=
  let rows := distinctOn (·.snapshot.blockNumber)
    (fun a b => b.snapshot.createdAt - a.snapshot.createdAt)
    ((db.savingsSnapshots.rows.filter fun row =>
      row.2.chainId = chainId ∧ row.2.blockNumber ∈ [fromBlock, toBlock]).filterMap
        fun row => db.joinAssets row.1 row.2)
  let get (block : ℤ) := (rows.find? (·.snapshot.blockNumber = block)).map (·.boundaryRow)
  ⟨get fromBlock, get toBlock⟩

/-! ## The events -/

/-- The events of a chain in `(fromBlock, toBlock]`. -/
def Database.eventsWithin (db : Database) (chainId : ℕ) (fromBlock toBlock : ℤ) :
    List ProtocolEventRow :=
  db.protocolEvents.filter fun event =>
    event.chainId = chainId ∧ fromBlock < event.blockNumber ∧ event.blockNumber ≤ toBlock

namespace ProtocolEventRow

variable (event : ProtocolEventRow)

/-- A transfer of the token of this role, with this address under the key. -/
def Transfers (role key address : String) : Prop :=
  event.contractRole = role ∧ event.eventName = "Transfer" ∧
    payloadLower event.payload key = some address

instance (role key address : String) : Decidable (event.Transfers role key address) :=
  inferInstanceAs (Decidable (_ ∧ _))

/-- An event of the vault. -/
def IsSavings (eventName : String) : Prop :=
  event.contractRole = "susdp-savings" ∧ event.eventName = eventName

instance (eventName : String) : Decidable (event.IsSavings eventName) :=
  inferInstanceAs (Decidable (_ ∧ _))

end ProtocolEventRow

/-- `sum(case when wanted then (payload->>key)::numeric else 0 end)` -/
def sumPayload (events : List ProtocolEventRow) (wanted : ProtocolEventRow → Bool)
    (key : String) : Except JsError ℤ :=
  ((events.filter wanted).mapM fun event => payloadNumeric event.payload key).map List.sum

/-- The sums over the events of a range. -/
structure EventTotals where
  usdpMinted : ℤ
  usdpBurned : ℤ
  susdpMinted : ℤ
  susdpBurned : ℤ
  depositedAssets : ℤ
  withdrawnAssets : ℤ
  accruedAssets : ℤ
deriving DecidableEq, Repr

/-- The sums, each over the events that it selects. -/
def readEventTotals (db : Database) (adapter : SavingsChainAdapter) (fromBlock toBlock : ℤ) :
    Except JsError EventTotals := do
  let events := db.eventsWithin adapter.chainId fromBlock toBlock
  let usdpMinted ← sumPayload events (·.Transfers "usdp-token" "from" ZERO_ADDRESS) "value"
  let usdpBurned ← sumPayload events (·.Transfers "usdp-token" "to" ZERO_ADDRESS) "value"
  let susdpMinted ← sumPayload events (·.Transfers "susdp-savings" "from" ZERO_ADDRESS) "value"
  let susdpBurned ← sumPayload events (·.Transfers "susdp-savings" "to" ZERO_ADDRESS) "value"
  let depositedAssets ← sumPayload events (·.IsSavings "Deposit") "assets"
  let withdrawnAssets ← sumPayload events (·.IsSavings "Withdraw") "assets"
  let accruedAssets ← sumPayload events (·.IsSavings "Accrued") "interest"
  return ⟨usdpMinted, usdpBurned, susdpMinted, susdpBurned, depositedAssets, withdrawnAssets,
    accruedAssets⟩

/-- There is an event of the vault in the same transaction. -/
def Database.HasVaultEvent (db : Database) (event : ProtocolEventRow) : Prop :=
  ∃ vault ∈ db.protocolEvents, vault.chainId = event.chainId ∧
    vault.transactionHash = event.transactionHash ∧ vault.contractRole = "susdp-savings" ∧
    vault.eventName ∈ ["Deposit", "Withdraw", "Accrued"]

instance (db : Database) (event : ProtocolEventRow) : Decidable (db.HasVaultEvent event) :=
  inferInstanceAs (Decidable (∃ vault ∈ db.protocolEvents, _))

/-- What a transfer adds to the net: its value where it is to the vault, and otherwise its
value with the other sign. -/
def directValue (vault : String) (event : ProtocolEventRow) : Except JsError ℤ :=
  (payloadNumeric event.payload "value").map fun value =>
    if payloadLower event.payload "to" = some vault then value else -value

/-- The USDp transfers to the vault or from it, in transactions without an event of the vault. -/
def readDirectUnderlyingNet (db : Database) (adapter : SavingsChainAdapter)
    (fromBlock toBlock : ℤ) : Except JsError ℤ :=
  let vault := toLowerCase adapter.susdp.address
  (((db.eventsWithin adapter.chainId fromBlock toBlock).filter fun event =>
    (event.Transfers "usdp-token" "to" vault ∨ event.Transfers "usdp-token" "from" vault) ∧
      ¬ db.HasVaultEvent event).mapM (directValue vault)).map List.sum

/-! ## The state of the index -/

/-- The logs with a topic of the protocol that have no event. -/
def readDecodeFailures (viem : Viem) (db : Database) (chainId : ℕ) (fromBlock toBlock : ℤ) : ℕ :=
  (db.rawLogs.filter fun raw =>
    raw.chainId = chainId ∧ fromBlock < raw.blockNumber ∧ raw.blockNumber ≤ toBlock ∧
      (raw.topics.head?.any fun topic => toLowerCase topic ∈
        protocolEventSignatures.map fun signature =>
          toLowerCase (viem.toEventSelector signature)) ∧
      ∀ event ∈ db.protocolEvents, event.rawLogId ≠ raw.id).length

/-- The identities under which there is more than one log. -/
def readDuplicateLogs (db : Database) (chainId : ℕ) (fromBlock toBlock : ℤ) : ℕ :=
  let identities := (db.rawLogs.filter fun raw =>
    raw.chainId = chainId ∧ fromBlock < raw.blockNumber ∧ raw.blockNumber ≤ toBlock).map
      fun raw => (raw.transactionHash, raw.logIndex)
  (identities.dedup.filter fun identity => identities.count identity > 1).length

/-- What the runs in a range have counted of their requests. -/
structure RpcState where
  retries : ℕ
  failures : ℕ
deriving DecidableEq, Repr

/-- What the runs that have touched the range have counted. -/
def readRpcState (db : Database) (chainId : ℕ) (fromBlock toBlock : ℤ) : RpcState :=
  let runs := db.runs.filter fun run =>
    run.chainId = chainId ∧ run.toBlock ≥ fromBlock ∧ run.fromBlock ≤ toBlock
  { retries := (runs.map (·.counters.rpcRetries)).sum
    failures := (runs.filter (·.status = .failed)).length }

/-- When the latest price of a chain was observed. -/
def readLatestPrice (prices : List PriceObservationRow) (chainId : ℕ) : Option ℤ :=
  (first (fun a b => b.observedAt - a.observedAt) (prices.filter (·.chainId = chainId))).map
    (·.observedAt)

/-- The newest yield that is stored for the interval. -/
def readNativeYpo (db : AnalyticsDatabase) (chainId : ℕ) (fromBlock toBlock : ℤ) : Option ℤ :=
  (first (fun a b => b.createdAt - a.createdAt) (db.yields.values.filter fun row =>
    row.chainId = chainId ∧ row.fromBlock = fromBlock ∧ row.toBlock = toBlock)).map (·.nativeYpo)

/-- What the ledger comes to. -/
structure HolderState where
  balanceSum : ℤ
  complete : Bool
  sourceToBlock : Option ℤ
deriving DecidableEq, Repr

/-- What the sUSDp balances of the lifetime scope come to; without a row they are of no
complete history. -/
def readHolderState (tables : HolderTables) (adapter : SavingsChainAdapter) : HolderState :=
  let rows := (tables.rowsOf adapter.chainId (lifetimeActivityScope adapter)).filter
    (·.assetId = .susdp)
  { balanceSum := (rows.map (·.balance)).sum
    complete := rows ≠ [] ∧ ∀ row ∈ rows, row.historyComplete
    sourceToBlock := (rows.map (·.sourceToBlock)).max? }

/-! ## The suite -/

/-- What the suite reads. -/
structure SuiteReadings where
  boundaries : Boundaries
  eventTotals : EventTotals
  directUnderlyingNet : ℤ
  coverage : CoverageReport
  lifetimeCoverage : CoverageReport
  checkpoint : Option CheckpointRow
  decodeFailureCount : ℕ
  duplicateLogCount : ℕ
  rpcState : RpcState
  latestPrice : Option ℤ
  nativeYpo : Option ℤ
  rateEvents : List SavingsRateSegmentEvent
  holderState : HolderState

namespace RunVerificationSuiteOptions

variable (options : RunVerificationSuiteOptions)

/-- The reads of the suite; one that fails fails them all. -/
def read (viem : Viem) (db : VerificationDatabase) : Except JsError SuiteReadings := do
  let index := db.analytics.index
  let chainId := options.adapter.chainId
  let eventTotals ← readEventTotals index options.adapter options.fromBlock options.toBlock
  let directUnderlyingNet ←
    readDirectUnderlyingNet index options.adapter options.fromBlock options.toBlock
  let coverage ← verifyCoverage index options.scope options.fromBlock options.toBlock chainId
  let lifetimeCoverage ← verifyCoverage index (lifetimeActivityScope options.adapter)
    options.fromBlock options.toBlock chainId
  let rateEvents ← readRateEvents index chainId options.fromBlock options.toBlock
  return {
    boundaries := readBoundarySnapshots db.analytics chainId options.fromBlock options.toBlock
    eventTotals := eventTotals
    directUnderlyingNet := directUnderlyingNet
    coverage := coverage
    lifetimeCoverage := lifetimeCoverage
    checkpoint := index.checkpoint chainId options.scope
    decodeFailureCount :=
      readDecodeFailures viem index chainId options.fromBlock options.toBlock
    duplicateLogCount := readDuplicateLogs index chainId options.fromBlock options.toBlock
    rpcState := readRpcState index chainId options.fromBlock options.toBlock
    latestPrice := readLatestPrice db.prices chainId
    nativeYpo := readNativeYpo db.analytics chainId options.fromBlock options.toBlock
    rateEvents := rateEvents
    holderState := readHolderState db.holders options.adapter }

/-- What the shares at the end convert to, if the endpoint answers and sees the state of the
snapshot. -/
def convertedTotalSupplyAssets (finish : BoundarySnapshotRow) : Option ℤ :=
  (do
    let blockHash ← options.client.blockHash options.toBlock
    let rpcTotalSupply ← options.client.totalSupply options.toBlock
    let rpcTotalAssets ← options.client.totalAssets options.toBlock
    let rpcConvertedAssets ←
      options.client.convertToAssets finish.susdpTotalSupply options.toBlock
    return if blockHash.map toLowerCase = some (toLowerCase finish.blockHash) ∧
        rpcTotalSupply = finish.susdpTotalSupply ∧ rpcTotalAssets = finish.susdpTotalAssets then
      some rpcConvertedAssets
    else none : Except JsError (Option ℤ)).toOption.join

end RunVerificationSuiteOptions

/-- The rate window between two boundaries. -/
def boundaryWindow (start finish : BoundarySnapshotRow) : RateWindow where
  actualAssetsAtStart := start.susdpActualAssets
  totalAssetsAtStart := start.susdpTotalAssets
  rateAtStart := start.susdpRate
  lastUpdateAtStart := start.susdpLastUpdate
  blockTimestampAtStart := seconds start.blockTimestamp
  blockTimestampAtEnd := seconds finish.blockTimestamp

/-- Whether the implementations are the same at both boundaries, where all four are known. -/
def implementationMatchesManifest (start finish : BoundarySnapshotRow) : Option Bool :=
  if ZERO_ADDRESS ∈ [start.usdpImplementation, start.susdpImplementation,
      finish.usdpImplementation, finish.susdpImplementation] then none
  else some (start.usdpImplementation = finish.usdpImplementation ∧
    start.susdpImplementation = finish.susdpImplementation)

/-- A value that is used only if the coverage it rests on is complete. -/
def CoverageReport.guarding {α : Type} (coverage : CoverageReport) (value : α) : Option α :=
  if coverage.complete then some value else none

namespace SuiteReadings

variable (readings : SuiteReadings) (options : RunVerificationSuiteOptions)

/-- The block up to which the scope is indexed. -/
def indexedThroughBlock : Option ℤ := readings.checkpoint.bind (·.lastCompletedBlock)

/-- The interval is indexed. -/
def complete : Bool :=
  readings.indexedThroughBlock.any (· ≥ options.toBlock) ∧ readings.coverage.complete

/-- The ledger is complete and reaches the end of the range. -/
def holderHistoryComplete : Bool :=
  readings.lifetimeCoverage.complete ∧ readings.holderState.complete ∧
    readings.holderState.sourceToBlock.any (· ≥ options.toBlock)

/-- Both boundaries, if both are there. -/
def bothBoundaries : Option (BoundarySnapshotRow × BoundarySnapshotRow) := do
  let start ← readings.boundaries.start
  let finish ← readings.boundaries.finish
  return (start, finish)

/-- The yield that the rate model gives; none if the integration throws. -/
def rateIntegratedYpo : Option ℤ := do
  let (start, finish) ← readings.bothBoundaries
  let integrated ←
    (integrateSegmentedRateWindow (boundaryWindow start finish) readings.rateEvents).toOption
  return integrated.integratedYpo

/-- The figures of the identities; what depends on a range is left out unless it is covered. -/
def coreInput : CoreReconciliationInput where
  startUsdpSupply := readings.boundaries.start.map fun start => start.usdpTotalSupply
  endUsdpSupply := readings.boundaries.finish.map fun finish => finish.usdpTotalSupply
  usdpMinted := readings.lifetimeCoverage.guarding readings.eventTotals.usdpMinted
  usdpBurned := readings.lifetimeCoverage.guarding readings.eventTotals.usdpBurned
  startSusdpSupply := readings.boundaries.start.map fun start => start.susdpTotalSupply
  endSusdpSupply := readings.boundaries.finish.map fun finish => finish.susdpTotalSupply
  susdpMinted := readings.coverage.guarding readings.eventTotals.susdpMinted
  susdpBurned := readings.coverage.guarding readings.eventTotals.susdpBurned
  startActualAssets := readings.boundaries.start.map fun start => start.susdpActualAssets
  endActualAssets := readings.boundaries.finish.map fun finish => finish.susdpActualAssets
  depositedAssets := readings.coverage.guarding readings.eventTotals.depositedAssets
  withdrawnAssets := readings.coverage.guarding readings.eventTotals.withdrawnAssets
  accruedAssets := readings.coverage.guarding readings.eventTotals.accruedAssets
  directUnderlyingNet := readings.coverage.guarding readings.directUnderlyingNet
  convertedTotalSupplyAssets :=
    readings.boundaries.finish.bind options.convertedTotalSupplyAssets
  endTotalAssets := readings.boundaries.finish.map fun finish => finish.susdpTotalAssets
  holderBalanceSum :=
    if readings.holderHistoryComplete options then some readings.holderState.balanceSum else none
  holderHistoryComplete := readings.holderHistoryComplete options
  rateIntegratedYpo := readings.rateIntegratedYpo
  nativeYpo := readings.nativeYpo
  indexedThroughBlock := readings.indexedThroughBlock
  requestedToBlock := options.toBlock

/-- An interval that is indexed has a fresh checkpoint, and no failure counts against it. -/
def healthInput (updatedAt : CheckpointRow → ℤ) : HealthInput where
  checkpointAgeSeconds :=
    if readings.complete options then some 0
    else readings.checkpoint.map fun row => (ageSeconds options.now (updatedAt row) : ℚ)
  checkpointMaximumAgeSeconds := options.checkpointMaximumAgeSeconds.getD (30 * 60)
  coverageGapCount := readings.coverage.gaps.length
  decodeFailureCount := readings.decodeFailureCount
  duplicateLogCount := readings.duplicateLogCount
  rpcRetryCount := readings.rpcState.retries
  rpcFailureCount := if readings.complete options then 0 else readings.rpcState.failures
  priceAgeSeconds :=
    readings.latestPrice.map fun observedAt => (ageSeconds options.now observedAt : ℚ)
  priceMaximumAgeSeconds := options.priceMaximumAgeSeconds.getD (60 * 60)
  implementationMatchesManifest :=
    readings.bothBoundaries.bind fun both => implementationMatchesManifest both.1 both.2
  nativeYpo := readings.nativeYpo
  holderHistoryComplete := readings.holderHistoryComplete options

end SuiteReadings

/-- What the suite returns. -/
structure VerificationReport where
  coverage : CoverageReport
  summary : VerificationSummary
  reconciliations : List ReconciliationResult
  health : List HealthFinding
deriving DecidableEq, Repr

/-- The readings are judged, and the verdicts summed up. -/
def runVerificationSuite (viem : Viem) (options : RunVerificationSuiteOptions)
    (db : VerificationDatabase) : Except JsError VerificationReport := do
  let readings ← options.read viem db
  let results := evaluateCoreReconciliations (readings.coreInput options)
  let findings := evaluateHealth (readings.healthInput options db.updatedAt)
  return {
    coverage := readings.coverage
    summary := summarizeVerification results findings
    reconciliations := results
    health := findings }

/-! ## What a report is made of -/

/-- The readings that the checks of an interval depend on. -/
structure SuiteReadings.Of (options : RunVerificationSuiteOptions) (db : VerificationDatabase)
    (readings : SuiteReadings) : Prop where
  boundaries : readings.boundaries = readBoundarySnapshots db.analytics options.adapter.chainId
    options.fromBlock options.toBlock
  eventTotals : readEventTotals db.analytics.index options.adapter options.fromBlock
    options.toBlock = .ok readings.eventTotals
  directUnderlyingNet : readDirectUnderlyingNet db.analytics.index options.adapter
    options.fromBlock options.toBlock = .ok readings.directUnderlyingNet
  coverage : verifyCoverage db.analytics.index options.scope options.fromBlock options.toBlock
    options.adapter.chainId = .ok readings.coverage
  lifetimeCoverage : verifyCoverage db.analytics.index (lifetimeActivityScope options.adapter)
    options.fromBlock options.toBlock options.adapter.chainId = .ok readings.lifetimeCoverage
  indexedThroughBlock : readings.indexedThroughBlock
    = db.analytics.index.lastCompleted ⟨options.adapter.chainId, options.scope⟩
  holderState : readings.holderState = readHolderState db.holders options.adapter

/-- A result of the report has this name and this status. -/
def VerificationReport.Judges (report : VerificationReport) (checkName : String)
    (status : VerificationStatus) : Prop :=
  ∃ result ∈ report.reconciliations, result.checkName = checkName ∧ result.status = status

instance (report : VerificationReport) (checkName : String) (status : VerificationStatus) :
    Decidable (report.Judges checkName status) :=
  inferInstanceAs (Decidable (∃ result ∈ report.reconciliations, _))

/-- **A report judges the identities of what was read.** -/
theorem runVerificationSuite_judges {viem : Viem} {options : RunVerificationSuiteOptions}
    {db : VerificationDatabase} {report : VerificationReport}
    (ran : runVerificationSuite viem options db = .ok report) :
    ∃ readings : SuiteReadings, readings.Of options db ∧
      ∀ (identity : CoreIdentity) (status : VerificationStatus),
        report.Judges identity.checkName status
          ↔ identity.status (readings.coreInput options) = status := by
  obtain ⟨readings, read, ran⟩ := bind_eq_ok.mp ran
  cases ran
  refine ⟨readings, ?_, fun identity status => exists_result_iff⟩
  obtain ⟨eventTotals, totals, read⟩ := bind_eq_ok.mp read
  obtain ⟨directUnderlyingNet, direct, read⟩ := bind_eq_ok.mp read
  obtain ⟨coverage, covered, read⟩ := bind_eq_ok.mp read
  obtain ⟨lifetimeCoverage, lifetime, read⟩ := bind_eq_ok.mp read
  obtain ⟨rateEvents, -, read⟩ := bind_eq_ok.mp read
  cases read
  exact ⟨rfl, totals, direct, covered, lifetime, rfl, rfl⟩

end UsdpIndexer
