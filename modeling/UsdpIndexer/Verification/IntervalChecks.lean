import UsdpIndexer.Analytics.AlignedReconciliation
import UsdpIndexer.Analytics.HolderHistory
import UsdpIndexer.Verification.Service

/-!
# Checks of an interval that lies in the past

Two checks of the suite compare the end of the requested interval with a figure that goes on
moving when the index does.

* The head check wants the checkpoint *at* the end of the interval, while the suite itself
  takes the interval for indexed if the checkpoint is there or later.
* The holder check compares the supply at the end of the interval with the sum of balances
  that are those of a later block.

`indexedHead_not_fail_iff` and `holderBalances_not_fail_iff` say when they do not fail.
-/

namespace UsdpIndexer

open KeyedTable hiding Unique
open FailingFold

/-! ## The indexed head -/

/-- The suite takes the interval for indexed: the checkpoint is at its end or later, and its
coverage has no gap. -/
def RunVerificationSuiteOptions.Indexed (options : RunVerificationSuiteOptions)
    (db : VerificationDatabase) : Prop :=
  (∃ block, db.analytics.index.lastCompleted ⟨options.adapter.chainId, options.scope⟩ = some block ∧
    options.toBlock ≤ block) ∧
  ∃ coverage, verifyCoverage db.analytics.index options.scope options.fromBlock options.toBlock
    options.adapter.chainId = .ok coverage ∧ coverage.complete = true

/-- It is the condition under which the suite reports a fresh checkpoint and no failures. -/
theorem SuiteReadings.Of.complete_iff {options : RunVerificationSuiteOptions}
    {db : VerificationDatabase} {readings : SuiteReadings} (of : readings.Of options db) :
    readings.complete options = true ↔ options.Indexed db := by
  unfold SuiteReadings.complete RunVerificationSuiteOptions.Indexed
  rw [of.indexedThroughBlock, of.coverage]
  cases db.analytics.index.lastCompleted ⟨options.adapter.chainId, options.scope⟩ <;> simp

/-- **The verdict on a past interval.**  Where the suite takes an interval for indexed, its head
check does not fail if and only if the checkpoint is still at the end of the interval. -/
theorem indexedHead_not_fail_iff (viem : Viem) (options : RunVerificationSuiteOptions)
    (db : VerificationDatabase) (report : VerificationReport)
    (ran : runVerificationSuite viem options db = .ok report) (indexed : options.Indexed db) :
    ¬ report.Judges "indexed_head_vs_requested_finalized_head" .fail
      ↔ db.analytics.index.lastCompleted ⟨options.adapter.chainId, options.scope⟩
          = some options.toBlock := by
  obtain ⟨readings, of, judges⟩ := runVerificationSuite_judges ran
  obtain ⟨⟨block, indexedThrough, -⟩, -⟩ := indexed
  have judged : report.Judges "indexed_head_vs_requested_finalized_head" .fail
      ↔ CoreIdentity.indexedHead.status (readings.coreInput options) = .fail :=
    judges .indexedHead .fail
  have difference : CoreIdentity.indexedHead.difference (readings.coreInput options)
      = some (block - options.toBlock) := by
    have head : (readings.coreInput options).indexedThroughBlock = some block :=
      of.indexedThroughBlock.trans indexedThrough
    simp only [CoreIdentity.difference, head]
    rfl
  rw [judged, CoreIdentity.status_eq_fail, CoreIdentity.Fails, difference, indexedThrough]
  simp only [Option.some.injEq, exists_eq_left', CoreIdentity.tolerance, abs_pos, not_not]
  omega

/-! ## The supply -/

/-- What has been minted of an asset less what has been burned. -/
def supplyOf (history : List TransferReplayEvent) (assetId : ParallelAssetId) : ℤ :=
  -held history (assetId, ZERO_ADDRESS)

/-- The supply at a block. -/
def supplyAt (history : List TransferReplayEvent) (assetId : ParallelAssetId) (block : ℤ) : ℤ :=
  supplyOf (transfersUpTo history block) assetId

/-- The balances of a replay add up to the supply. -/
theorem HolderReplay.Conserves.sum_balances {replay : HolderReplay}
    {events : List TransferReplayEvent} (conserves : replay.Conserves events)
    (assetId : ParallelAssetId) :
    ((replay.balances.filter (·.assetId = assetId)).map (·.balance)).sum
      = supplyOf events assetId := by
  have known : assetId ∈ replay.activity.map (·.assetId) := by
    rw [conserves.assets]
    cases assetId <;> decide
  obtain ⟨activity, mem, rfl⟩ := List.mem_map.mp known
  have said := conserves.activity activity mem
  rw [said.conserved, said.mintedVolume, said.burnedVolume, supplyOf, held]
  exact (neg_sub _ _).symm

/-- The supply at a later block. -/
theorem supplyAt_later (history : List TransferReplayEvent) (assetId : ParallelAssetId)
    {block later : ℤ} (order : block ≤ later) :
    supplyAt history assetId later = supplyAt history assetId block
      + supplyOf (transfersWithin history (block + 1) later) assetId := by
  rcases order.eq_or_lt with rfl | before
  · have nothing : transfersWithin history (block + 1) block = [] := by
      refine List.filter_eq_nil_iff.mpr fun event _ inside => ?_
      have := of_decide_eq_true inside
      omega
    rw [nothing]
    exact (add_zero _).symm
  · rw [supplyAt, supplyOf, held_transfersUpTo history (Int.add_one_le_of_lt before)]
    simp only [supplyAt, supplyOf, add_sub_cancel_right, neg_add]

/-- Transfers that nobody takes part in leave the supply alone. -/
theorem supplyOf_eq_zero {history : List TransferReplayEvent} {assetId : ParallelAssetId}
    (nobody : ∀ event ∈ history, event.assetId = assetId →
      event.sender = ZERO_ADDRESS ∧ event.receiver = ZERO_ADDRESS) :
    supplyOf history assetId = 0 := by
  have same : (history.filter fun event =>
        event.assetId = assetId ∧ event.receiver = ZERO_ADDRESS)
      = history.filter fun event => event.assetId = assetId ∧ event.sender = ZERO_ADDRESS := by
    refine List.filter_congr fun event mem => ?_
    by_cases ofAsset : event.assetId = assetId
    · simp [ofAsset, nobody event mem ofAsset]
    · simp [ofAsset]
  rw [supplyOf, held, credits, debits, same, sub_self, neg_zero]

/-! ## The holders -/

/-- The ledger of a chain is the replay of its history from the deployment on, by this call. -/
structure LedgerReplays (adapter : SavingsChainAdapter) (history : List TransferReplayEvent)
    (call : RebuildCall) (tables : HolderTables) : Prop where
  succeeds : call.Succeeds adapter (lifetimeActivityScope adapter)
  reads : call.Reads adapter history
  deployment : ∀ event ∈ history, call.fromBlock ≤ event.blockNumber
  rows : (tables.rowsOf adapter.chainId (lifetimeActivityScope adapter)).Perm
    (call.writtenRows adapter (lifetimeActivityScope adapter))

/-- A range that begins at the deployment has the whole history in it. -/
theorem LedgerReplays.transfersWithin {adapter : SavingsChainAdapter}
    {history : List TransferReplayEvent} {call : RebuildCall} {tables : HolderTables}
    (ledger : LedgerReplays adapter history call tables) :
    UsdpIndexer.transfersWithin history call.fromBlock call.toBlock
      = transfersUpTo history call.toBlock := by
  refine List.filter_congr fun event mem => ?_
  have := ledger.deployment event mem
  simp [this]

/-- The sUSDp rows of the ledger are written from the balances that the history leaves. -/
theorem LedgerReplays.susdpRows {adapter : SavingsChainAdapter}
    {history : List TransferReplayEvent} {call : RebuildCall} {tables : HolderTables}
    (ledger : LedgerReplays adapter history call tables) :
    ∃ replay : HolderReplay, replay.Conserves (transfersUpTo history call.toBlock) ∧
      ((tables.rowsOf adapter.chainId (lifetimeActivityScope adapter)).filter
          (·.assetId = .susdp)).Perm
        ((replay.balances.filter (·.assetId = .susdp)).map
          (call.balanceRow adapter (lifetimeActivityScope adapter))) := by
  obtain ⟨events, replay, read, run, conserves, -⟩ := ledger.succeeds.spec
  obtain ⟨events', read', perm⟩ := ledger.reads
  obtain rfl : events = events' := Except.ok.inj (read.symm.trans read')
  rw [ledger.transfersWithin] at perm
  have written : call.writtenRows adapter (lifetimeActivityScope adapter)
      = replay.balances.map (call.balanceRow adapter (lifetimeActivityScope adapter)) := by
    rw [RebuildCall.writtenRows, run]
  refine ⟨replay, conserves.perm perm, (ledger.rows.filter _).trans (.of_eq ?_)⟩
  rw [written, List.filter_map]
  rfl

/-- Nobody has taken part where a replay has left no row. -/
theorem HolderReplay.Conserves.nobody_of_nil {replay : HolderReplay}
    {events : List TransferReplayEvent} (conserves : replay.Conserves events)
    {assetId : ParallelAssetId} (none : replay.balances.filter (·.assetId = assetId) = []) :
    ∀ event ∈ events, event.assetId = assetId →
      event.sender = ZERO_ADDRESS ∧ event.receiver = ZERO_ADDRESS := by
  intro event mem ofAsset
  -- whoever takes part has a row
  have noRow (holder : String) (took : event.sender = holder ∨ event.receiver = holder) :
      holder = ZERO_ADDRESS := by
    by_contra ne
    obtain ⟨row, stored, key⟩ :=
      (conserves.holders assetId holder).mpr ⟨ne, event, mem, ofAsset, took⟩
    have kept : row ∈ replay.balances.filter (·.assetId = assetId) :=
      List.mem_filter.mpr ⟨stored, decide_eq_true (congrArg Prod.fst key)⟩
    rw [none] at kept
    exact List.not_mem_nil kept
  exact ⟨noRow _ (.inl rfl), noRow _ (.inr rfl)⟩

/-- What the suite reads of such a ledger: the supply at the block of the ledger, of a complete
history, or nothing if nobody has ever held a share. -/
theorem LedgerReplays.holderState {adapter : SavingsChainAdapter}
    {history : List TransferReplayEvent} {call : RebuildCall} {tables : HolderTables}
    (ledger : LedgerReplays adapter history call tables) :
    let state := readHolderState tables adapter
    state.balanceSum = supplyAt history .susdp call.toBlock ∧
      ((state.complete = true ∧ state.sourceToBlock = some call.toBlock) ∨
        (state.complete = false ∧ ∀ event ∈ transfersUpTo history call.toBlock,
          event.assetId = .susdp →
            event.sender = ZERO_ADDRESS ∧ event.receiver = ZERO_ADDRESS)) := by
  obtain ⟨replay, conserves, rows⟩ := ledger.susdpRows
  intro state
  constructor
  · refine ((rows.map _).sum_eq).trans ?_
    rw [List.map_map, supplyAt, ← conserves.sum_balances]
    rfl
  · cases held : replay.balances.filter (·.assetId = .susdp) with
    | nil =>
        rw [held] at rows
        refine .inr ⟨?_, conserves.nobody_of_nil held⟩
        simp only [state, readHolderState, rows.eq_nil]
        rfl
    | cons row others =>
        rw [held] at rows
        refine .inl ⟨?_, ?_⟩
        · have some : (tables.rowsOf adapter.chainId (lifetimeActivityScope adapter)).filter
              (·.assetId = .susdp) ≠ [] := by
            intro empty
            rw [empty] at rows
            exact List.cons_ne_nil _ _ rows.symm.eq_nil
          refine decide_eq_true ⟨some, fun stored mem => ?_⟩
          obtain ⟨balance, -, rfl⟩ := List.mem_map.mp (rows.mem_iff.mp mem)
          rfl
        · refine List.max?_eq_some_iff.mpr ⟨?_, fun block mem => ?_⟩
          · exact ((rows.map _).mem_iff).mpr List.mem_cons_self
          · obtain ⟨stored, inside, rfl⟩ := List.mem_map.mp mem
            obtain ⟨balance, -, rfl⟩ := List.mem_map.mp (rows.mem_iff.mp inside)
            exact le_refl _

/-- **The supply of one block and the balances of another.**  Let the ledger be the replay of
the history up to a block that is not before the end of the interval, the lifetime scope be
covered, and the snapshot at the end have the true supply.  The holder check does not fail if
and only if as much has been minted as burned between the end of the interval and that
block. -/
theorem holderBalances_not_fail_iff (viem : Viem) (options : RunVerificationSuiteOptions)
    (db : VerificationDatabase) (report : VerificationReport)
    (ran : runVerificationSuite viem options db = .ok report)
    (history : List TransferReplayEvent) (call : RebuildCall)
    (ledger : LedgerReplays options.adapter history call db.holders)
    (later : options.toBlock ≤ call.toBlock)
    (covered : ∃ coverage, verifyCoverage db.analytics.index
      (lifetimeActivityScope options.adapter) options.fromBlock options.toBlock
      options.adapter.chainId = .ok coverage ∧ coverage.complete = true)
    (snapshot : ∃ finish, (readBoundarySnapshots db.analytics options.adapter.chainId
      options.fromBlock options.toBlock).finish = some finish ∧
      (finish.susdpTotalSupply : ℤ) = supplyAt history .susdp options.toBlock) :
    ¬ report.Judges "holder_ledger_sum_vs_susdp_supply" .fail
      ↔ supplyOf (transfersWithin history (options.toBlock + 1) call.toBlock) .susdp = 0 := by
  obtain ⟨readings, of, judges⟩ := runVerificationSuite_judges ran
  have judged : report.Judges "holder_ledger_sum_vs_susdp_supply" .fail
      ↔ CoreIdentity.holderBalances.status (readings.coreInput options) = .fail :=
    judges .holderBalances .fail
  obtain ⟨coverage, lifetime, complete⟩ := covered
  obtain rfl : coverage = readings.lifetimeCoverage :=
    Except.ok.inj (lifetime.symm.trans of.lifetimeCoverage)
  obtain ⟨finish, found, supply⟩ := snapshot
  have endSupply : (readings.coreInput options).endSusdpSupply
      = some (supplyAt history .susdp options.toBlock) := by
    rw [← supply]
    simp only [SuiteReadings.coreInput, of.boundaries, found]
    rfl
  obtain ⟨sum, state⟩ := ledger.holderState
  rw [judged, CoreIdentity.status_eq_fail, CoreIdentity.Fails]
  rcases state with ⟨whole, upTo⟩ | ⟨partly, nobody⟩
  · -- the difference is what the supply has changed by since
    have history_complete : readings.holderHistoryComplete options = true := by
      simp only [SuiteReadings.holderHistoryComplete, complete, of.holderState, whole, upTo]
      simpa using later
    have difference : CoreIdentity.holderBalances.difference (readings.coreInput options)
        = some (supplyAt history .susdp call.toBlock
            - supplyAt history .susdp options.toBlock) := by
      have balances : (readings.coreInput options).holderBalanceSum
          = some (supplyAt history .susdp call.toBlock) := by
        simp only [SuiteReadings.coreInput, history_complete, if_true, of.holderState, sum]
      have flag : (readings.coreInput options).holderHistoryComplete = true := history_complete
      simp only [CoreIdentity.difference, flag, if_true, endSupply, balances]
      rfl
    rw [difference, supplyAt_later history .susdp later]
    simp [CoreIdentity.tolerance]
  · -- nothing is compared, and there is nothing to compare
    have flag : (readings.coreInput options).holderHistoryComplete = false := by
      simp [SuiteReadings.coreInput, SuiteReadings.holderHistoryComplete, of.holderState, partly]
    have unchanged : supplyOf (transfersWithin history (options.toBlock + 1) call.toBlock) .susdp
        = 0 := by
      refine supplyOf_eq_zero fun event mem => nobody event ?_
      obtain ⟨known, inside⟩ := List.mem_filter.mp mem
      exact List.mem_filter.mpr ⟨known, decide_eq_true (of_decide_eq_true inside).2⟩
    simp [CoreIdentity.difference, flag, unchanged]

/-! ## Indexed past the interval

A hundred shares are minted in block 1 and another hundred in block 3.  Everything up to
block 3 is indexed, and there are snapshots at all three blocks. -/

/-- A hundred shares for `alice`. -/
def shareMint (block : ℤ) : ProtocolEventRow :=
  { sampleTransfer block ZERO_ADDRESS alice with contractRole := "susdp-savings" }

/-- An index with a mint in the first block and in the third. -/
def shareIndex : Database :=
  { Database.empty with
    blocks := [1, 2, 3].map fun n =>
      ⟨HYPEREVM_CHAIN_ID, n, s!"0x{n}", s!"0x{n - 1}", n, true⟩
    coverage := [⟨HYPEREVM_CHAIN_ID, lifetimeActivityScope sampleAdapter, 1, 3, 1⟩]
    checkpoints := [⟨HYPEREVM_CHAIN_ID, lifetimeActivityScope sampleAdapter, 4, some 3, none⟩]
    protocolEvents := [shareMint 1, shareMint 3] }

/-- The two mints as the replay reads them. -/
def shareHistory : List TransferReplayEvent :=
  [⟨.susdp, 1, 1000, 0, ZERO_ADDRESS, alice, 100⟩, ⟨.susdp, 3, 3000, 0, ZERO_ADDRESS, alice, 100⟩]

/-- The rebuild over both mints. -/
def shareRebuild : RebuildCall := ⟨1, 3, none, shareIndex, none⟩

/-- A snapshot of an asset with this supply. -/
def shareSnapshot (assetId : ParallelAssetId) (block : ℤ) (totalSupply : ℕ) :
    AssetChainSnapshot where
  assetId := assetId
  chainId := HYPEREVM_CHAIN_ID
  blockNumber := block
  blockHash := s!"0x{block}"
  blockTimestamp := dateOfSeconds block
  totalSupply := totalSupply
  snapshotStatus := .candidate
  manifestVersion := ""
  calculationVersion := ""

/-- The index with its ledger, and the snapshots of every block. -/
def shareDatabase : VerificationDatabase where
  analytics :=
    { AnalyticsDatabase.empty with
      index := shareIndex
      assetSnapshots := ((SerialTable.empty.insert (shareSnapshot .usdp 1 0)).insert
        (shareSnapshot .susdp 1 100)).insert (shareSnapshot .susdp 3 200)
      savingsSnapshots := ((SerialTable.empty.insert (idleSnapshot HYPEREVM_CHAIN_ID 1)).insert
        (idleSnapshot HYPEREVM_CHAIN_ID 2)).insert
          { idleSnapshot HYPEREVM_CHAIN_ID 3 with susdpSnapshotId := 3 } }
  holders := (rebuildHolderLedger sampleAdapter (lifetimeActivityScope sampleAdapter)
    shareRebuild .empty).2
  prices := []
  updatedAt := fun _ => 0

/-- No endpoint answers. -/
def silentClient : VerificationClient :=
  ⟨fun _ => .error ⟨""⟩, fun _ => .error ⟨""⟩, fun _ => .error ⟨""⟩, fun _ _ => .error ⟨""⟩⟩

/-- A package that decodes nothing. -/
def plainViem : Viem := ⟨fun _ _ _ => none, id⟩

/-- The interval from block 1 to another. -/
def intervalTo (toBlock : ℤ) : RunVerificationSuiteOptions where
  adapter := sampleAdapter
  client := silentClient
  scope := lifetimeActivityScope sampleAdapter
  fromBlock := 1
  toBlock := toBlock
  checkpointMaximumAgeSeconds := none
  priceMaximumAgeSeconds := none
  now := 0

/-- What the index and the snapshots have of the two intervals. -/
theorem shareDatabase_indexed :
    ((verifyCoverage shareIndex (lifetimeActivityScope sampleAdapter) 1 2
        HYPEREVM_CHAIN_ID).map (·.complete) = .ok true ∧
      (verifyCoverage shareIndex (lifetimeActivityScope sampleAdapter) 1 3
        HYPEREVM_CHAIN_ID).map (·.complete) = .ok true) ∧
    shareIndex.lastCompleted ⟨HYPEREVM_CHAIN_ID, lifetimeActivityScope sampleAdapter⟩ = some 3 ∧
    ((readBoundarySnapshots shareDatabase.analytics HYPEREVM_CHAIN_ID 1 2).finish.map
        fun finish => (finish.susdpTotalSupply : ℤ)) = some (supplyAt shareHistory .susdp 2) ∧
    ((readBoundarySnapshots shareDatabase.analytics HYPEREVM_CHAIN_ID 1 3).finish.map
        fun finish => (finish.susdpTotalSupply : ℤ)) = some (supplyAt shareHistory .susdp 3) := by
  decide +kernel

theorem indexed_intervalTo :
    (intervalTo 2).Indexed shareDatabase ∧ (intervalTo 3).Indexed shareDatabase := by
  obtain ⟨covered, checkpoint, -⟩ := shareDatabase_indexed
  exact ⟨⟨⟨3, checkpoint, by decide⟩, map_eq_ok.mp covered.1⟩,
    ⟨⟨3, checkpoint, by decide⟩, map_eq_ok.mp covered.2⟩⟩

/-- There is a report on the interval that ends where the index does.  The two checks fail on the
interval that ends a block earlier, which has no transfer in it. -/
theorem reports_intervalTo :
    (∃ report, runVerificationSuite plainViem (intervalTo 3) shareDatabase = .ok report) ∧
    ∃ report, runVerificationSuite plainViem (intervalTo 2) shareDatabase = .ok report ∧
      report.Judges "indexed_head_vs_requested_finalized_head" .fail ∧
      report.Judges "holder_ledger_sum_vs_susdp_supply" .fail := by
  have reported :
      (runVerificationSuite plainViem (intervalTo 3) shareDatabase).map (fun _ => ()) = .ok () ∧
      (runVerificationSuite plainViem (intervalTo 2) shareDatabase).map
          (fun report => decide (report.Judges "indexed_head_vs_requested_finalized_head" .fail ∧
            report.Judges "holder_ledger_sum_vs_susdp_supply" .fail)) = .ok true := by
    decide +kernel
  obtain ⟨report, ran, -⟩ := map_eq_ok.mp reported.1
  obtain ⟨report', ran', judged⟩ := map_eq_ok.mp reported.2
  exact ⟨⟨report, ran⟩, report', ran', of_decide_eq_true judged⟩

theorem indexedHead_not_fail_iff_intervalTo : ∃ report,
    runVerificationSuite plainViem (intervalTo 3) shareDatabase = .ok report ∧
      ¬ report.Judges "indexed_head_vs_requested_finalized_head" .fail := by
  obtain ⟨⟨report, ran⟩, -⟩ := reports_intervalTo
  exact ⟨report, ran, (indexedHead_not_fail_iff plainViem (intervalTo 3) shareDatabase report ran
    indexed_intervalTo.2).mpr shareDatabase_indexed.2.1⟩

/-- The suite takes the interval for indexed, and its head check fails. -/
theorem indexedHead_fails_later :
    ¬ ∀ (viem : Viem) (options : RunVerificationSuiteOptions) (db : VerificationDatabase)
      (report : VerificationReport), runVerificationSuite viem options db = .ok report →
        options.Indexed db → ¬ report.Judges "indexed_head_vs_requested_finalized_head" .fail := by
  intro survives
  obtain ⟨-, report, ran, fails, -⟩ := reports_intervalTo
  exact survives plainViem (intervalTo 2) shareDatabase report ran indexed_intervalTo.1 fails

theorem ledgerReplays_shares :
    LedgerReplays sampleAdapter shareHistory shareRebuild shareDatabase.holders := by
  have replayed : shareRebuild.Succeeds sampleAdapter (lifetimeActivityScope sampleAdapter) ∧
      shareRebuild.transfers sampleAdapter = .ok shareHistory ∧
      shareDatabase.holders.rowsOf HYPEREVM_CHAIN_ID (lifetimeActivityScope sampleAdapter)
        = shareRebuild.writtenRows sampleAdapter (lifetimeActivityScope sampleAdapter) := by
    decide +kernel
  obtain ⟨succeeds, reads, rows⟩ := replayed
  exact ⟨succeeds, ⟨shareHistory, reads, .of_eq (by decide)⟩, by decide, .of_eq rows⟩

theorem supply_shareSnapshots :
    (∃ finish, (readBoundarySnapshots shareDatabase.analytics HYPEREVM_CHAIN_ID 1 2).finish
        = some finish ∧ (finish.susdpTotalSupply : ℤ) = supplyAt shareHistory .susdp 2) ∧
      ∃ finish, (readBoundarySnapshots shareDatabase.analytics HYPEREVM_CHAIN_ID 1 3).finish
        = some finish ∧ (finish.susdpTotalSupply : ℤ) = supplyAt shareHistory .susdp 3 := by
  obtain ⟨-, -, supplies⟩ := shareDatabase_indexed
  exact ⟨Option.map_eq_some_iff.mp supplies.1, Option.map_eq_some_iff.mp supplies.2⟩

theorem holderBalances_not_fail_iff_intervalTo : ∃ report,
    runVerificationSuite plainViem (intervalTo 3) shareDatabase = .ok report ∧
      ¬ report.Judges "holder_ledger_sum_vs_susdp_supply" .fail := by
  obtain ⟨⟨report, ran⟩, -⟩ := reports_intervalTo
  exact ⟨report, ran, (holderBalances_not_fail_iff plainViem (intervalTo 3) shareDatabase report
    ran shareHistory shareRebuild ledgerReplays_shares (by decide) indexed_intervalTo.2.2
    supply_shareSnapshots.2).mpr (by decide)⟩

/-- The balances of block 3 are compared with the supply of block 2. -/
theorem holderBalances_fails_later :
    ¬ ∀ (viem : Viem) (options : RunVerificationSuiteOptions) (db : VerificationDatabase)
      (report : VerificationReport) (history : List TransferReplayEvent) (call : RebuildCall),
        runVerificationSuite viem options db = .ok report →
        LedgerReplays options.adapter history call db.holders →
        options.toBlock ≤ call.toBlock →
        (∃ coverage, verifyCoverage db.analytics.index (lifetimeActivityScope options.adapter)
          options.fromBlock options.toBlock options.adapter.chainId = .ok coverage ∧
          coverage.complete = true) →
        (∃ finish, (readBoundarySnapshots db.analytics options.adapter.chainId options.fromBlock
          options.toBlock).finish = some finish ∧
          (finish.susdpTotalSupply : ℤ) = supplyAt history .susdp options.toBlock) →
        ¬ report.Judges "holder_ledger_sum_vs_susdp_supply" .fail := by
  intro agrees
  obtain ⟨-, report, ran, -, fails⟩ := reports_intervalTo
  exact agrees plainViem (intervalTo 2) shareDatabase report shareHistory shareRebuild ran
    ledgerReplays_shares (by decide) indexed_intervalTo.1.2 supply_shareSnapshots.1 fails

end UsdpIndexer
