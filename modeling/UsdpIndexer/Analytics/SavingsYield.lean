import UsdpIndexer.Analytics.HolderLedger
import UsdpIndexer.Analytics.SavingsSnapshots

/-!
# Yield intervals and their global sums

`analytics/multichain-yield.ts`, the reader of `analytics/history-queries.ts`, and
`reconcileSavingsYield` on the tables as they are.

* `calculateSavingsYieldForRange` makes an interval row of two snapshots and the interest
  accrued between them, once for a range and a version.
* `reconcileSavingsYield` sets the status of a row; what it decides is in
  `UsdpIndexer.Analytics.YieldReconciliation`.
* `createGlobalSavingsYield` adds up the verified intervals of a window.  It takes of
  every chain the newest row whose window is within five minutes.
* `readLatestSavingsHistory` returns the latest sum with rows that it finds again by the
  name of their scope.
-/

namespace UsdpIndexer

open SerialTable SelectFirst StableOrder FailingFold

/-- The version under which the yield of a chain is stored. -/
def SAVINGS_YPO_CALCULATION_VERSION : String := "parallel-savings-native-ypo-v1-candidate"

/-- The version under which the sum of the yields is stored. -/
def GLOBAL_SAVINGS_YPO_CALCULATION_VERSION : String :=
  "parallel-global-savings-native-ypo-v1-candidate"

/-- Which blocks belong to the range of a yield. -/
def SAVINGS_YPO_WINDOW_CONVENTION : String := "(start_block,end_block]"

/-! ## One interval -/

/-- What `calculateSavingsYieldForRange` is called with. -/
structure CalculateSavingsYieldOptions where
  adapter : SavingsChainAdapter
  scope : String
  fromBlock : ℤ
  toBlock : ℤ
  calculationVersion? : Option String
deriving DecidableEq, Repr

/-- The newest snapshot of the adapter at each of the two boundary blocks. -/
def AnalyticsDatabase.boundarySnapshots (db : AnalyticsDatabase)
    (options : CalculateSavingsYieldOptions) : List (ℕ × SavingsChainSnapshot) :=
  distinctOn (·.2.blockNumber) (fun a b => b.2.createdAt - a.2.createdAt)
    (db.savingsSnapshots.rows.filter fun row =>
      row.2.chainId = options.adapter.chainId ∧
        row.2.blockNumber ∈ [options.fromBlock, options.toBlock] ∧
        row.2.manifestVersion = options.adapter.manifestVersion)

/-- `byBlock.get(block)` -/
def AnalyticsDatabase.boundarySnapshot (db : AnalyticsDatabase)
    (options : CalculateSavingsYieldOptions) (block : ℤ) : Option (ℕ × SavingsChainSnapshot) :=
  (db.boundarySnapshots options).find? (·.2.blockNumber = block)

/-- `(payload->>key)::numeric`; a key that is missing is null, which a sum leaves out. -/
def payloadNumeric (payload : Json) (key : String) : Except JsError ℤ :=
  match payload.field key with
  | none => .ok 0
  | some (.decimal value) | some (.number value) => .ok value
  | some _ => .error ⟨"invalid input syntax for type numeric"⟩

/-- `lower(payload->>key)`; what is not a string is not the text of an address. -/
def payloadLower (payload : Json) (key : String) : Option String :=
  match payload.field key with
  | some (.text value) => some (Text.toLowerCase value)
  | _ => none

/-- The interest accrued on a chain in `(fromBlock, toBlock]`. -/
def sumAccruedInterest (db : Database) (chainId : ℕ) (fromBlock toBlock : ℤ) :
    Except JsError ℤ :=
  (((db.protocolEvents.filter fun event =>
    event.chainId = chainId ∧ event.contractRole = "susdp-savings" ∧
      event.eventName = "Accrued" ∧ fromBlock < event.blockNumber ∧
      event.blockNumber ≤ toBlock).mapM fun event =>
        payloadNumeric event.payload "interest")).map List.sum

/-- The insert into `savings_yield_aggregates`, under its checks. -/
def insertYield (row : SavingsYieldInterval) (db : AnalyticsDatabase) :
    Except JsError (ℕ × AnalyticsDatabase) :=
  if row.windowEnd ≤ row.windowStart then
    .error ⟨"new row for relation \"savings_yield_aggregates\" violates check constraint " ++
      "\"savings_yield_window_check\""⟩
  else if row.accruedInterest < 0 ∨ row.nativeYpo < 0 then
    .error ⟨"new row for relation \"savings_yield_aggregates\" violates check constraint " ++
      "\"savings_yield_amounts_check\""⟩
  else
    insertOrReuse SavingsYieldInterval.key "Cannot read properties of undefined (reading 'id')"
      db.yields row fun yields => { db with yields }

/-- What the calculation of a yield comes to. -/
inductive SavingsYieldResult
  | coverageIncomplete (coverage : CoverageReport)
  | boundarySnapshotMissing (coverage : CoverageReport) (start finish : Bool)
  | boundarySnapshotInvalid (coverage : CoverageReport)
  | candidate (savingsYieldId : ℕ) (coverage : CoverageReport) (row : SavingsYieldInterval)
deriving DecidableEq, Repr

/-- The row for an interval between two snapshots. -/
def CalculateSavingsYieldOptions.interval (options : CalculateSavingsYieldOptions)
    (start finish : ℕ × SavingsChainSnapshot) (accruedInterest nativeYpo createdAt : ℤ) :
    SavingsYieldInterval where
  chainId := options.adapter.chainId
  startSnapshotId := start.1
  endSnapshotId := finish.1
  fromBlock := options.fromBlock
  toBlock := options.toBlock
  windowStart := start.2.blockTimestamp
  windowEnd := finish.2.blockTimestamp
  accruedInterest := accruedInterest
  pendingYieldAtStart := start.2.susdpPendingYield
  pendingYieldAtEnd := finish.2.susdpPendingYield
  nativeYpo := nativeYpo
  coverageScope := options.scope
  windowConvention := SAVINGS_YPO_WINDOW_CONVENTION
  reconciliationStatus := .candidate
  manifestVersion := options.adapter.manifestVersion
  calculationVersion := options.calculationVersion?.getD SAVINGS_YPO_CALCULATION_VERSION
  createdAt := createdAt

/-- Compute an interval and store it, from boundary snapshots that are there. -/
def storeSavingsYield (options : CalculateSavingsYieldOptions) (coverage : CoverageReport)
    (start finish : ℕ × SavingsChainSnapshot) (db : AnalyticsDatabase) :
    Except JsError (SavingsYieldResult × AnalyticsDatabase) := do
  let accruedInterest ←
    sumAccruedInterest db.index options.adapter.chainId options.fromBlock options.toBlock
  let nativeYpo ← calculateNativeYpo accruedInterest start.2.susdpPendingYield
    finish.2.susdpPendingYield
  let row := options.interval start finish accruedInterest nativeYpo db.clock
  let (savingsYieldId, db) ← insertYield row db
  return (.candidate savingsYieldId coverage row, db)

/-- The yield between the two snapshots at the ends of a covered range, if both are there and
neither is invalid. -/
def calculateSavingsYieldForRange (options : CalculateSavingsYieldOptions)
    (db : AnalyticsDatabase) : Except JsError (SavingsYieldResult × AnalyticsDatabase) :=
  if options.toBlock ≤ options.fromBlock then
    .error ⟨"YPO end block must be greater than its start block"⟩
  else do
    let coverage ← verifyCoverage db.index options.scope options.fromBlock options.toBlock
      options.adapter.chainId
    if !coverage.complete then .ok (.coverageIncomplete coverage, db)
    else
      match db.boundarySnapshot options options.fromBlock,
          db.boundarySnapshot options options.toBlock with
      | some start, some finish =>
          if start.2.snapshotStatus = .invalid ∨ finish.2.snapshotStatus = .invalid then
            .ok (.boundarySnapshotInvalid coverage, db)
          else storeSavingsYield options coverage start finish db
      | start, finish =>
          .ok (.boundarySnapshotMissing coverage start.isNone finish.isNone, db)

/-! ## Its reconciliation -/

/-- `BigInt(Math.floor(date.getTime() / 1_000))` -/
def seconds (date : ℤ) : ℤ := date / 1000

/-- The columns that `reconcileSavingsYield` reads of a snapshot. -/
def SavingsChainSnapshot.reconciliationRow (id : ℕ) (row : SavingsChainSnapshot) :
    SavingsChainSnapshotRow where
  id := id
  chainId := row.chainId
  blockTimestamp := seconds row.blockTimestamp
  susdpTotalAssets := row.susdpTotalAssets
  susdpActualAssets := row.susdpActualAssets
  susdpRate := row.susdpRate
  susdpLastUpdate := row.susdpLastUpdate

/-- The columns that it reads of an interval. -/
def SavingsYieldInterval.reconciliationRow (id : ℕ) (row : SavingsYieldInterval) :
    SavingsYieldRow where
  id := id
  chainId := row.chainId
  startSnapshotId := row.startSnapshotId
  endSnapshotId := row.endSnapshotId
  fromBlock := row.fromBlock
  toBlock := row.toBlock
  windowEnd := row.windowEnd
  accruedInterest := row.accruedInterest
  nativeYpo := row.nativeYpo
  reconciliationStatus := row.reconciliationStatus
  createdAt := row.createdAt

/-- The tables as `UsdpIndexer.Analytics.YieldReconciliation` has them. -/
def AnalyticsDatabase.savings (db : AnalyticsDatabase) : SavingsDatabase where
  index := db.index
  snapshots := db.savingsSnapshots.rows.map fun row => row.2.reconciliationRow row.1
  yields := db.yields.rows.map fun row => row.2.reconciliationRow row.1

/-- `update savings_yield_aggregates set reconciliation_status = … where id = …`. -/
def AnalyticsDatabase.setStatus (db : AnalyticsDatabase) (id : ℕ)
    (status : ReconciliationStatus) : AnalyticsDatabase :=
  { db with
    yields := db.yields.update fun i row =>
      if i = id then { row with reconciliationStatus := status } else row }

/-- `reconcileSavingsYield`; it goes through the tables of
`UsdpIndexer.Analytics.YieldReconciliation`. -/
def AnalyticsDatabase.reconcileSavingsYield (db : AnalyticsDatabase) (chainId : ℕ)
    (savingsYieldId : Option ℕ) : Except JsError (Option Reconciliation × AnalyticsDatabase) :=
  match db.savings.selectInterval chainId savingsYieldId with
  | none => .ok (none, db)
  | some row => do
      let reconciliation ←
        reconcileRow row (readRateEvents db.index chainId row.fromBlock row.toBlock)
      return (some reconciliation,
        if reconciliation.status = .candidate then db
        else db.setStatus row.id reconciliation.status)

/-- Both models of the function agree: on the result, and on the tables they share. -/
theorem reconcileSavingsYield_savings (db : AnalyticsDatabase) (chainId : ℕ)
    (savingsYieldId : Option ℕ) :
    UsdpIndexer.reconcileSavingsYield db.savings chainId savingsYieldId
      = (db.reconcileSavingsYield chainId savingsYieldId).map fun result =>
          (result.1, result.2.savings) := by
  have written (id : ℕ) (status : ReconciliationStatus) :
      (db.setStatus id status).savings = db.savings.setStatus id status := by
    simp only [AnalyticsDatabase.savings, AnalyticsDatabase.setStatus, SavingsDatabase.setStatus,
      SerialTable.update, List.map_map, SavingsDatabase.mk.injEq, true_and]
    apply List.map_congr_left
    intro row _
    simp only [Function.comp_apply, SavingsYieldInterval.reconciliationRow]
    split <;> rfl
  rw [UsdpIndexer.reconcileSavingsYield, AnalyticsDatabase.reconcileSavingsYield]
  cases db.savings.selectInterval chainId savingsYieldId with
  | none => rfl
  | some row =>
      show (reconcileRow row (readRateEvents db.index chainId row.fromBlock row.toBlock)
        >>= fun reconciliation => _) = Except.map _
          (reconcileRow row (readRateEvents db.index chainId row.fromBlock row.toBlock)
            >>= fun reconciliation => _)
      cases reconcileRow row (readRateEvents db.index chainId row.fromBlock row.toBlock) with
      | error error => rfl
      | ok reconciliation =>
          show Except.ok (some reconciliation, _) = Except.ok (some reconciliation, _)
          split
          · rfl
          · rw [written]

/-! ## The global sum -/

/-- Within five minutes of one another. -/
def withinFiveMinutes (a b : ℤ) : Prop := b - 300000 ≤ a ∧ a ≤ b + 300000

instance (a b : ℤ) : Decidable (withinFiveMinutes a b) := inferInstanceAs (Decidable (_ ∧ _))

/-- Newest first. -/
def newestFirst (a b : ℕ × SavingsYieldInterval) : ℤ := b.2.createdAt - a.2.createdAt

/-- Of every savings chain the newest interval of about this window. -/
def AnalyticsDatabase.windowYields (db : AnalyticsDatabase) (windowStart windowEnd : ℤ) :
    List (ℕ × SavingsYieldInterval) :=
  distinctOn (·.2.chainId) newestFirst (db.yields.rows.filter fun row =>
    row.2.chainId ∈ savingsChainIds ∧ withinFiveMinutes row.2.windowStart windowStart ∧
      withinFiveMinutes row.2.windowEnd windowEnd)

/-- What of a row goes into the sum. -/
def yieldComponent (row : ℕ × SavingsYieldInterval) : YieldComponentInput where
  id := row.1
  chainId := row.2.chainId
  nativeYpo := row.2.nativeYpo
  reconciliationStatus := row.2.reconciliationStatus

/-- The sum over the intervals of a window. -/
def AnalyticsDatabase.yieldAggregate (db : AnalyticsDatabase) (windowStart windowEnd : ℤ) :
    SavingsYieldAggregate :=
  aggregateSavingsYieldComponents ((db.windowYields windowStart windowEnd).map yieldComponent)
    savingsChainIds

/-- The row of `global_savings_yield_aggregates` for a sum. -/
def SavingsYieldAggregate.globalYield (aggregate : SavingsYieldAggregate)
    (windowStart windowEnd createdAt : ℤ) : GlobalSavingsYield where
  windowStart := windowStart
  windowEnd := windowEnd
  expectedChainCount := savingsChainIds.length
  includedChainCount := aggregate.included.length
  coverageStatus := aggregate.coverageStatus
  nativeYpo := aggregate.nativeYpo
  includedChainIds := aggregate.includedChainIds
  missingChainIds := aggregate.missingChainIds
  unreconciledChainIds := aggregate.unreconciledChainIds
  calculationVersion := GLOBAL_SAVINGS_YPO_CALCULATION_VERSION
  createdAt := createdAt

/-- The row a global sum becomes on conflict. -/
def mergeGlobalYield (stored excluded : GlobalSavingsYield) : GlobalSavingsYield :=
  { excluded with expectedChainCount := stored.expectedChainCount }

/-- The transaction of `createGlobalSavingsYield`, past the checks on the row. -/
def storeGlobalYield (aggregate : SavingsYieldAggregate) (windowStart windowEnd : ℤ)
    (db : AnalyticsDatabase) : ℕ × AnalyticsDatabase :=
  let (globalYieldId, globalYields) := db.globalYields.upsert GlobalSavingsYield.key
    mergeGlobalYield (aggregate.globalYield windowStart windowEnd db.clock)
  (globalYieldId, { db with
    globalYields := globalYields
    globalYieldComponents :=
      (db.globalYieldComponents.filter (·.globalYieldId ≠ globalYieldId)) ++
        aggregate.included.map fun component =>
          ⟨globalYieldId, component.id, component.chainId⟩ })

/-- The sum over the chains at the window, unless a check of the table refuses it. -/
def createGlobalSavingsYield (windowStart windowEnd : ℤ) (db : AnalyticsDatabase) :
    Except JsError ((ℕ × SavingsYieldAggregate) × AnalyticsDatabase) :=
  let aggregate := db.yieldAggregate windowStart windowEnd
  if windowEnd ≤ windowStart then
    .error ⟨"new row for relation \"global_savings_yield_aggregates\" violates check " ++
      "constraint \"global_savings_yield_window_check\""⟩
  else if aggregate.nativeYpo < 0 then
    .error ⟨"new row for relation \"global_savings_yield_aggregates\" violates check " ++
      "constraint \"global_savings_yield_amount_check\""⟩
  else
    let stored := storeGlobalYield aggregate windowStart windowEnd db
    .ok ((stored.1, aggregate), stored.2)

/-! ## The reader -/

/-- `savingsHistoryScope` of an aligned range; the targets are in seconds. -/
def savingsHistoryScope (adapter : SavingsChainAdapter)
    (targetWindowStart targetWindowEnd : ℤ) : String :=
  s!"parallel-savings-{adapter.chainSlug}-{targetWindowStart}-{targetWindowEnd}-v1"

/-- What the scopes of a window end in. -/
def alignedScopeSuffix (windowStart windowEnd : ℤ) : String :=
  s!"-{seconds windowStart}-{seconds windowEnd}-v1"

/-- `coverage_scope like '%' || suffix`; there is no other wildcard in the pattern. -/
def scopeMatches (scope suffix : String) : Prop := suffix.toList <:+ scope.toList

instance (scope suffix : String) : Decidable (scopeMatches scope suffix) :=
  inferInstanceAs (Decidable (_ <:+ _))

/-- The global sum of the latest window, and of these the newest. -/
def AnalyticsDatabase.latestGlobalYield (db : AnalyticsDatabase) :
    Option (ℕ × GlobalSavingsYield) :=
  first (fun a b => lexCompare (·.2.windowEnd) (·.2.createdAt) b a) db.globalYields.rows

/-- Of every chain the newest interval whose scope has the name of the window. -/
def AnalyticsDatabase.alignedYields (db : AnalyticsDatabase) (global : GlobalSavingsYield) :
    List (ℕ × SavingsYieldInterval) :=
  distinctOn (·.2.chainId) newestFirst (db.yields.rows.filter fun row =>
    scopeMatches row.2.coverageScope (alignedScopeSuffix global.windowStart global.windowEnd))

/-- Of every chain the latest interval of about seven days. -/
def AnalyticsDatabase.sevenDayYields (db : AnalyticsDatabase) : List (ℕ × SavingsYieldInterval) :=
  distinctOn (·.2.chainId) (fun a b => lexCompare (·.2.windowEnd) (·.2.createdAt) b a)
    (db.yields.rows.filter fun row =>
      601200000 ≤ row.2.windowEnd - row.2.windowStart ∧
        row.2.windowEnd - row.2.windowStart ≤ 608400000)

/-- What `readLatestSavingsHistory` returns. -/
structure SavingsHistory where
  status : CoverageStatus
  chains : List (ℕ × SavingsYieldInterval)
  global : Option (ℕ × GlobalSavingsYield)
deriving DecidableEq, Repr

/-- The latest sum with the intervals of its window; without a sum, the intervals of seven days. -/
def readLatestSavingsHistory (db : AnalyticsDatabase) : SavingsHistory :=
  let global := db.latestGlobalYield
  let chains := match global with
    | some latest => db.alignedYields latest.2
    | none => db.sevenDayYields
  if chains = [] then ⟨.unavailable, [], none⟩
  else ⟨(global.map (·.2.coverageStatus)).getD .partially, chains, global⟩

end UsdpIndexer
