import UsdpIndexer.Analytics.HolderConservation
import UsdpIndexer.Indexer.Store
import UsdpIndexer.Library.Batches
import UsdpIndexer.Library.Machine

/-!
# The persisted holder ledger

`rebuildHolderLedger` of `analytics/holders.ts`: where a range is covered, its
transfers are replayed, and in one transaction the balances are upserted into
`holder_balances` and the activity into `asset_activity_aggregates`.

An upsert leaves the rows alone that it does not mention.  A rebuild over a range in
which a holder has not taken part leaves the row that an earlier rebuild has written
for it, and nothing tells that row from the others.  So the ledger is the replay of
the last call exactly if no holder is ever left out again
(`ledger_is_last_replay_iff`).
-/

namespace UsdpIndexer

open KeyedTable hiding Unique
open StableOrder FailingFold Text Batches

/-! ## The tables -/

/-- What an account holds of an asset, after the transfers of a range. -/
structure HolderBalanceRow where
  chainId : ℕ
  assetId : ParallelAssetId
  holderAddress : String
  balance : ℤ
  firstPositiveBlock : Option ℤ
  lastChangedBlock : ℤ
  sourceScope : String
  sourceFromBlock : ℤ
  sourceToBlock : ℤ
  historyComplete : Bool
  manifestVersion : String
  calculationVersion : String
deriving DecidableEq, Repr

/-- `holder_balances_scope_asset_holder_unique`. -/
def HolderBalanceRow.key (row : HolderBalanceRow) : ℕ × String × ParallelAssetId × String :=
  (row.chainId, row.sourceScope, row.assetId, row.holderAddress)

/-- What the transfers of a range come to for an asset. -/
structure AssetActivityRow where
  chainId : ℕ
  activity : ReplayedAssetActivity
  sourceScope : String
  sourceFromBlock : ℤ
  sourceToBlock : ℤ
  historyComplete : Bool
  manifestVersion : String
  calculationVersion : String
deriving DecidableEq, Repr

/-- `asset_activity_provenance_unique`. -/
def AssetActivityRow.key (row : AssetActivityRow) : ℕ × ParallelAssetId × String × ℤ × ℤ × String :=
  (row.chainId, row.activity.assetId, row.sourceScope, row.sourceFromBlock, row.sourceToBlock,
    row.calculationVersion)

/-- The two tables of the ledger. -/
structure HolderTables where
  balances : List HolderBalanceRow
  activity : List AssetActivityRow
deriving DecidableEq, Repr

/-- No row. -/
def HolderTables.empty : HolderTables := ⟨[], []⟩

/-- The balances of a chain and a scope. -/
def HolderTables.rowsOf (tables : HolderTables) (chainId : ℕ) (scope : String) :
    List HolderBalanceRow :=
  tables.balances.filter fun row => row.chainId = chainId ∧ row.sourceScope = scope

/-! ## Coverage -/

/-- Whether a range is covered, and where it is not. -/
structure CoverageReport where
  scope : String
  chainId : ℕ
  fromBlock : ℤ
  toBlock : ℤ
  complete : Bool
  rangeRows : ℕ
  gaps : List BlockRange
deriving DecidableEq, Repr

/-- The gaps that the coverage rows of a scope leave in a range. -/
def verifyCoverage (db : Database) (scope : String) (fromBlock toBlock : ℤ) (chainId : ℕ) :
    Except JsError CoverageReport := do
  let ranges := sortBy compareFromBlock ((db.coverageRanges chainId scope).filter fun range =>
    range.toBlock ≥ fromBlock ∧ range.fromBlock ≤ toBlock)
  let gaps ← coverageGaps ranges fromBlock toBlock
  return {
    scope := scope
    chainId := chainId
    fromBlock := fromBlock
    toBlock := toBlock
    complete := gaps.length = 0
    rangeRows := ranges.length
    gaps := gaps }

/-! ## One rebuild -/

/-- The version under which the ledger is stored. -/
def HOLDER_CALCULATION_VERSION : String := "parallel-holder-replay-v1"

/-- One call on a chain and a scope: the range, what is indexed when the call reads it,
and the error at which the database gives the transaction up, if it does. -/
structure RebuildCall where
  fromBlock : ℤ
  toBlock : ℤ
  calculationVersion : Option String
  index : Database
  fault : Option JsError

/-- The address under a key of a payload; the decoder stores addresses as strings. -/
def payloadAddress (payload : Json) (key : String) : Except JsError String :=
  match payload.field key with
  | some (.text value) => .ok (toLowerCase value)
  | _ => .error ⟨s!"Invalid transfer address: {key}"⟩

/-- `BigInt(row.value)`. -/
def payloadValue (payload : Json) : Except JsError ℤ :=
  match payload.field "value" with
  | some (.decimal value) | some (.number value) => .ok value
  | _ => .error ⟨"Cannot convert value to a BigInt"⟩

/-- A row of the transfer query as an event. -/
def transferEvent (entry : BlockRow × ProtocolEventRow) : Except JsError TransferReplayEvent := do
  let fromAddress ← payloadAddress entry.2.payload "from"
  let toAddress ← payloadAddress entry.2.payload "to"
  let value ← payloadValue entry.2.payload
  return {
    assetId := if entry.2.contractRole = "usdp-token" then .usdp else .susdp
    blockNumber := entry.2.blockNumber
    blockTimestamp := 1000 * entry.1.timestamp
    logIndex := entry.2.logIndex
    fromAddress := fromAddress
    toAddress := toAddress
    value := value }

/-- The result of a rebuild. -/
inductive RebuildResult
  | unavailable (coverage : CoverageReport)
  | complete (coverage : CoverageReport) (transferEvents holderRows : ℕ)
      (activity : List ReplayedAssetActivity)
deriving DecidableEq, Repr

/-- It has written the replay. -/
def RebuildResult.isComplete : RebuildResult → Bool
  | .unavailable _ => false
  | .complete .. => true

namespace RebuildCall

variable (call : RebuildCall) (adapter : SavingsChainAdapter) (scope : String)

/-- The transfers of the range. -/
def transfers : Except JsError (List TransferReplayEvent) :=
  (call.index.selectEvents adapter.chainId fun event =>
    call.fromBlock ≤ event.blockNumber ∧ event.blockNumber ≤ call.toBlock ∧
      event.eventName = "Transfer" ∧
      event.contractRole ∈ ["usdp-token", "susdp-savings"]).mapM transferEvent

/-- The time of a boundary block, in milliseconds. -/
def boundaryTime (block : ℤ) : ℤ :=
  ((lookup BlockRow.key call.index.blocks (adapter.chainId, block)).map
    (1000 * ·.timestamp)).getD 0

/-- The replay of a list of transfers with the fallback window of the call. -/
def replayTransfers (events : List TransferReplayEvent) : Except JsError HolderReplay :=
  replayHolderTransfers events (call.boundaryTime adapter call.fromBlock)
    (call.boundaryTime adapter call.toBlock)

/-- The replay of the range. -/
def replay : Except JsError HolderReplay :=
  call.transfers adapter >>= call.replayTransfers adapter

/-- A row for `holder_balances`. -/
def balanceRow (row : ReplayedHolderBalance) : HolderBalanceRow where
  chainId := adapter.chainId
  assetId := row.assetId
  holderAddress := row.holderAddress
  balance := row.balance
  firstPositiveBlock := row.firstPositiveBlock
  lastChangedBlock := row.lastChangedBlock
  sourceScope := scope
  sourceFromBlock := call.fromBlock
  sourceToBlock := call.toBlock
  historyComplete := true
  manifestVersion := adapter.manifestVersion
  calculationVersion := call.calculationVersion.getD HOLDER_CALCULATION_VERSION

/-- A row for `asset_activity_aggregates`. -/
def activityRow (activity : ReplayedAssetActivity) : AssetActivityRow where
  chainId := adapter.chainId
  activity := activity
  sourceScope := scope
  sourceFromBlock := call.fromBlock
  sourceToBlock := call.toBlock
  historyComplete := true
  manifestVersion := adapter.manifestVersion
  calculationVersion := call.calculationVersion.getD HOLDER_CALCULATION_VERSION

/-- The transaction: the balances in batches of 500, and the activity. -/
def write (replay : HolderReplay) (tables : HolderTables) : HolderTables where
  balances := (batchesOf 500 replay.balances).foldl
    (fun table batch => upsertAll HolderBalanceRow.key table
      (batch.map (call.balanceRow adapter scope))) tables.balances
  activity := upsertAll AssetActivityRow.key tables.activity
    (replay.activity.map (call.activityRow adapter scope))

end RebuildCall

/-- A call that does not get through leaves the tables as they are. -/
def rebuildHolderLedger (adapter : SavingsChainAdapter) (scope : String) (call : RebuildCall)
    (tables : HolderTables) : Except JsError RebuildResult × HolderTables :=
  match verifyCoverage call.index scope call.fromBlock call.toBlock adapter.chainId with
  | .error error => (.error error, tables)
  | .ok coverage =>
      if ¬ coverage.complete then (.ok (.unavailable coverage), tables)
      else
        match call.transfers adapter with
        | .error error => (.error error, tables)
        | .ok events =>
            match call.replayTransfers adapter events with
            | .error error => (.error error, tables)
            | .ok replay =>
                match call.fault with
                | some error => (.error error, tables)
                | none =>
                    (.ok (.complete coverage events.length replay.balances.length
                      replay.activity), call.write adapter scope replay tables)

/-! ## What a rebuild leaves -/

namespace RebuildCall

section Write

variable (call : RebuildCall) (adapter : SavingsChainAdapter) (scope : String)

/-- The batches of the transaction are one batch. -/
theorem balances_write (replay : HolderReplay) (tables : HolderTables) :
    (call.write adapter scope replay tables).balances
      = upsertAll HolderBalanceRow.key tables.balances
          (replay.balances.map (call.balanceRow adapter scope)) := by
  have batched (batches : List (List ReplayedHolderBalance)) :
      ∀ table : List HolderBalanceRow,
        batches.foldl (fun table batch => upsertAll HolderBalanceRow.key table
          (batch.map (call.balanceRow adapter scope))) table
        = upsertAll HolderBalanceRow.key table
            (batches.flatten.map (call.balanceRow adapter scope)) := by
    induction batches with
    | nil => intro table; rfl
    | cons batch batches ih =>
        intro table
        rw [List.foldl_cons, ih, List.flatten_cons, List.map_append, upsertAll_append]
  rw [write, batched, flatten_batchesOf (by decide)]

/-- The rows of a replay are on different keys. -/
theorem unique_balanceRows {replay : HolderReplay} {events : List TransferReplayEvent}
    (conserves : replay.Conserves events) :
    KeyedTable.Unique HolderBalanceRow.key
      (replay.balances.map (call.balanceRow adapter scope)) := by
  have keys : (replay.balances.map (call.balanceRow adapter scope)).map HolderBalanceRow.key
      = (replay.balances.map ReplayedHolderBalance.key).map fun account =>
          (adapter.chainId, scope, account) := by
    rw [List.map_map, List.map_map]
    rfl
  rw [KeyedTable.Unique, keys]
  refine (List.nodup_map_iff ?_).mpr conserves.unique
  intro a b same
  simpa using same

theorem unique_activityRows {replay : HolderReplay} {events : List TransferReplayEvent}
    (conserves : replay.Conserves events) :
    KeyedTable.Unique AssetActivityRow.key
      (replay.activity.map (call.activityRow adapter scope)) := by
  have assets : (replay.activity.map (·.assetId)).Nodup := by
    rw [conserves.assets]
    decide
  have keys : (replay.activity.map (call.activityRow adapter scope)).map AssetActivityRow.key
      = (replay.activity.map (·.assetId)).map fun assetId =>
          (adapter.chainId, assetId, scope, call.fromBlock, call.toBlock,
            call.calculationVersion.getD HOLDER_CALCULATION_VERSION) := by
    rw [List.map_map, List.map_map]
    rfl
  rw [KeyedTable.Unique, keys]
  refine (List.nodup_map_iff ?_).mpr assets
  intro a b same
  simp only [Prod.mk.injEq, and_true, true_and] at same
  exact same

/-- What comes of a call, apart from the tables. -/
def outcome : Except JsError RebuildResult := (rebuildHolderLedger adapter scope call .empty).1

/-- The call has succeeded. -/
def Succeeds : Prop :=
  (call.outcome adapter scope).map RebuildResult.isComplete = .ok true

instance : Decidable (call.Succeeds adapter scope) :=
  inferInstanceAs (Decidable (_ = _))

variable {call adapter scope}

/-- **A call that succeeds** has replayed its transfers and written the replay. -/
theorem Succeeds.spec (succeeds : call.Succeeds adapter scope) :
    ∃ events replay, call.transfers adapter = .ok events ∧ call.replay adapter = .ok replay ∧
      replay.Conserves events ∧
      ∀ tables, (rebuildHolderLedger adapter scope call tables).2
        = call.write adapter scope replay tables := by
  obtain ⟨result, complete, isComplete⟩ := map_eq_ok.mp succeeds
  rw [outcome, rebuildHolderLedger] at complete
  cases covered : verifyCoverage call.index scope call.fromBlock call.toBlock adapter.chainId with
  | error error => simp [covered] at complete
  | ok coverage =>
      by_cases gapless : coverage.complete = true
      · cases read : call.transfers adapter with
        | error error => simp [covered, gapless, read] at complete
        | ok events =>
            cases run : call.replayTransfers adapter events with
            | error error => simp [covered, gapless, read, run] at complete
            | ok replay =>
                cases fault : call.fault with
                | some error => simp [covered, gapless, read, run, fault] at complete
                | none =>
                    refine ⟨events, replay, rfl, ?_, conserves_of_replay run, fun tables => ?_⟩
                    · rw [RebuildCall.replay, read]
                      exact run
                    · simp [rebuildHolderLedger, covered, gapless, read, run, fault]
      · have incomplete : RebuildResult.unavailable coverage = result := by
          simpa [covered, gapless] using complete
        rw [← incomplete] at isComplete
        cases isComplete

end Write

/-- The holder has taken part in a transfer of the range. -/
def Participates (call : RebuildCall) (adapter : SavingsChainAdapter)
    (account : ParallelAssetId × String) : Prop :=
  account.2 ≠ ZERO_ADDRESS ∧ ∃ events, call.transfers adapter = .ok events ∧
    ∃ event ∈ events, event.assetId = account.1 ∧
      (event.sender = account.2 ∨ event.receiver = account.2)

end RebuildCall

/-! ## Sequences of rebuilds -/

section Sequence

variable (adapter : SavingsChainAdapter) (scope : String)

/-- One call after the other; each makes its outcome visible. -/
def rebuildStep (call : RebuildCall) (tables : HolderTables) :
    HolderTables × List (Except JsError RebuildResult) :=
  let rebuilt := rebuildHolderLedger adapter scope call tables
  (rebuilt.2, [rebuilt.1])

/-- The tables after a sequence of calls, from empty ones. -/
def ledgerAfter (calls : List RebuildCall) : HolderTables :=
  (Machine.run (rebuildStep adapter scope) calls .empty).1

/-- The ledger is a replay, and its counts and sums are those of the activity that is
stored with it. -/
structure HolderTables.IsReplayOf (tables : HolderTables) (call : RebuildCall)
    (replay : HolderReplay) : Prop where
  rows : (tables.rowsOf adapter.chainId scope).Perm
    (replay.balances.map (call.balanceRow adapter scope))
  stored : ∀ activity ∈ replay.activity, call.activityRow adapter scope activity ∈ tables.activity
  holders : ∀ activity ∈ replay.activity,
    ((tables.rowsOf adapter.chainId scope).filter fun row =>
      row.assetId = activity.assetId ∧ row.historyComplete ∧ row.balance ≠ 0).length
      = activity.activeHolders
  sum : ∀ activity ∈ replay.activity,
    (((tables.rowsOf adapter.chainId scope).filter fun row =>
      row.assetId = activity.assetId).map (·.balance)).sum
      = activity.mintedVolume - activity.burnedVolume

/-- The account of a holder as a key of the table. -/
def accountKey (account : ParallelAssetId × String) : ℕ × String × ParallelAssetId × String :=
  (adapter.chainId, scope, account)

/-- The ledger after some calls has a row for each holder that has taken part in one of
them, and no other rows. -/
structure LedgerOf (calls : List RebuildCall) (tables : HolderTables) : Prop where
  unique : KeyedTable.Unique HolderBalanceRow.key tables.balances
  mem_iff : ∀ key, key ∈ tables.balances.map HolderBalanceRow.key ↔
    ∃ account, accountKey adapter scope account = key ∧
      ∃ call ∈ calls, call.Participates adapter account

variable {adapter scope} {front calls : List RebuildCall} {call : RebuildCall}

theorem ledgerAfter_concat (front : List RebuildCall) (call : RebuildCall) :
    ledgerAfter adapter scope (front ++ [call])
      = (rebuildHolderLedger adapter scope call (ledgerAfter adapter scope front)).2 := by
  rw [ledgerAfter, Machine.run_concat]
  rfl

/-- The keys that a replay of a call writes. -/
theorem key_mem_balanceRows {replay : HolderReplay} {events : List TransferReplayEvent}
    (read : call.transfers adapter = .ok events) (conserves : replay.Conserves events)
    (key : ℕ × String × ParallelAssetId × String) :
    key ∈ (replay.balances.map (call.balanceRow adapter scope)).map HolderBalanceRow.key ↔
      ∃ account, accountKey adapter scope account = key ∧ call.Participates adapter account := by
  have participates (account : ParallelAssetId × String) :
      call.Participates adapter account ↔ ∃ row ∈ replay.balances, row.key = account := by
    rw [RebuildCall.Participates, conserves.holders account.1 account.2]
    refine and_congr_right fun _ => ⟨?_, fun taken => ⟨events, read, taken⟩⟩
    rintro ⟨events', read', taken⟩
    rw [read, Except.ok.injEq] at read'
    exact read' ▸ taken
  simp only [List.mem_map, participates]
  constructor
  · rintro ⟨_, ⟨row, mem, rfl⟩, rfl⟩
    exact ⟨row.key, rfl, row, mem, rfl⟩
  · rintro ⟨_, rfl, row, mem, rfl⟩
    exact ⟨_, ⟨row, mem, rfl⟩, rfl⟩

/-- **What the ledger holds** after a sequence of successful calls. -/
theorem ledgerOf_ledgerAfter (succeed : ∀ call ∈ calls, call.Succeeds adapter scope) :
    LedgerOf adapter scope calls (ledgerAfter adapter scope calls) := by
  induction calls using List.reverseRecOn with
  | nil => exact ⟨unique_nil _, fun key => by simp [ledgerAfter, HolderTables.empty]⟩
  | append_singleton front call ih =>
      have before := ih fun other mem => succeed other (List.mem_append_left _ mem)
      obtain ⟨events, replay, read, -, conserves, writes⟩ := (succeed call (by simp)).spec
      have unique := call.unique_balanceRows adapter scope conserves
      rw [ledgerAfter_concat, writes]
      refine ⟨?_, fun key => ?_⟩
      · rw [call.balances_write]
        exact unique_upsertAll _ _ _ before.unique
      · rw [call.balances_write, key_mem_upsertAll _ unique, before.mem_iff,
          key_mem_balanceRows read conserves]
        constructor
        · rintro (⟨account, same, earlier, mem, took⟩ | ⟨account, same, took⟩)
          · exact ⟨account, same, earlier, List.mem_append_left _ mem, took⟩
          · exact ⟨account, same, call, by simp, took⟩
        · rintro ⟨account, same, other, mem, took⟩
          rcases List.mem_append.mp mem with mem | mem
          · exact Or.inl ⟨account, same, other, mem, took⟩
          · rw [List.mem_singleton] at mem
            exact Or.inr ⟨account, same, mem ▸ took⟩

/-- All the rows of the ledger are of its chain and scope. -/
theorem LedgerOf.rowsOf {tables : HolderTables} (ledger : LedgerOf adapter scope calls tables) :
    tables.rowsOf adapter.chainId scope = tables.balances := by
  refine List.filter_eq_self.mpr fun row mem => ?_
  obtain ⟨account, same, -⟩ := (ledger.mem_iff row.key).mp (List.mem_map_of_mem mem)
  simp only [accountKey, HolderBalanceRow.key, Prod.mk.injEq] at same
  exact decide_eq_true ⟨same.1.symm, same.2.1.symm⟩

/-- **After one more call** the ledger is its replay exactly if no holder of the earlier
calls is left out. -/
theorem rows_perm_iff {replay : HolderReplay} {events : List TransferReplayEvent}
    (succeed : ∀ earlier ∈ front, earlier.Succeeds adapter scope)
    (read : call.transfers adapter = .ok events) (conserves : replay.Conserves events)
    (writes : (rebuildHolderLedger adapter scope call (ledgerAfter adapter scope front)).2
      = call.write adapter scope replay (ledgerAfter adapter scope front))
    (after : LedgerOf adapter scope (front ++ [call])
      (ledgerAfter adapter scope (front ++ [call]))) :
    ((ledgerAfter adapter scope (front ++ [call])).rowsOf adapter.chainId scope).Perm
        (replay.balances.map (call.balanceRow adapter scope)) ↔
      ∀ earlier ∈ front, ∀ account, earlier.Participates adapter account →
        call.Participates adapter account := by
  have before := ledgerOf_ledgerAfter succeed
  have unique := call.unique_balanceRows adapter scope conserves
  have mem_after (row : HolderBalanceRow) :
      row ∈ (ledgerAfter adapter scope (front ++ [call])).balances ↔
        row ∈ replay.balances.map (call.balanceRow adapter scope) ∨
        (row ∈ (ledgerAfter adapter scope front).balances ∧ row.key ∉
          (replay.balances.map (call.balanceRow adapter scope)).map HolderBalanceRow.key) := by
    rw [ledgerAfter_concat, writes, call.balances_write, mem_upsertAll _ _ _ unique]
  rw [after.rowsOf]
  constructor
  · -- the row of a holder that is left out would still be there
    intro perm earlier mem account took
    obtain ⟨row, stored, same⟩ := List.mem_map.mp ((before.mem_iff _).mpr
      ⟨account, rfl, earlier, mem, took⟩)
    by_contra leftOut
    have unmentioned : row.key ∉
        (replay.balances.map (call.balanceRow adapter scope)).map HolderBalanceRow.key := by
      rw [key_mem_balanceRows read conserves, same]
      rintro ⟨other, equal, took⟩
      simp only [accountKey, Prod.mk.injEq, true_and] at equal
      exact leftOut (equal ▸ took)
    have kept := (mem_after row).mpr (Or.inr ⟨stored, unmentioned⟩)
    exact unmentioned (List.mem_map_of_mem (perm.mem_iff.mp kept))
  · -- with nobody left out every old row is replaced
    intro taken
    refine (List.perm_ext_iff_of_nodup after.unique.of_map unique.of_map).mpr fun row => ?_
    rw [mem_after row]
    apply or_iff_left
    rintro ⟨stored, unmentioned⟩
    obtain ⟨account, same, earlier, mem, took⟩ :=
      (before.mem_iff row.key).mp (List.mem_map_of_mem stored)
    exact unmentioned ((key_mem_balanceRows read conserves _).mpr
      ⟨account, same, taken earlier mem account took⟩)

/-- A ledger that holds the rows of a replay has its counts and sums. -/
theorem isReplayOf_of_perm {tables : HolderTables} {replay : HolderReplay}
    {events : List TransferReplayEvent} (conserves : replay.Conserves events)
    (rows : (tables.rowsOf adapter.chainId scope).Perm
      (replay.balances.map (call.balanceRow adapter scope)))
    (stored : ∀ activity ∈ replay.activity,
      call.activityRow adapter scope activity ∈ tables.activity) :
    tables.IsReplayOf adapter scope call replay where
  rows := rows
  stored := stored
  holders activity mem := by
    rw [(conserves.activity activity mem).activeHolders, (rows.filter _).length_eq,
      ← List.countP_eq_length_filter, List.countP_map]
    refine List.countP_congr fun row hrow => ?_
    have nonneg := conserves.nonneg row hrow
    simp only [Function.comp_apply, RebuildCall.balanceRow, decide_eq_true_eq, true_and]
    refine and_congr_right fun _ => ?_
    omega
  sum activity mem := by
    rw [← (conserves.activity activity mem).conserved, ((rows.filter _).map _).sum_eq,
      List.filter_map, List.map_map]
    rfl

/-- **When the ledger is the last replay.**  In a sequence of successful calls, it is so
after each of them exactly if whoever has taken part in a transfer of a call takes part
in one of every later call. -/
theorem ledger_is_last_replay_iff {calls : List RebuildCall}
    (succeed : ∀ call ∈ calls, call.Succeeds adapter scope) :
    (∀ front call back, calls = front ++ call :: back →
      ∀ replay, call.replay adapter = .ok replay →
        (ledgerAfter adapter scope (front ++ [call])).IsReplayOf adapter scope call replay) ↔
    calls.Pairwise fun earlier later =>
      ∀ account, earlier.Participates adapter account → later.Participates adapter account := by
  -- one call in a sequence: what `rows_perm_iff` needs of it
  have at_call {front back : List RebuildCall} {call : RebuildCall}
      (split : calls = front ++ call :: back) :
      ∃ events replay, call.replay adapter = .ok replay ∧ replay.Conserves events ∧
        (rebuildHolderLedger adapter scope call (ledgerAfter adapter scope front)).2
          = call.write adapter scope replay (ledgerAfter adapter scope front) ∧
        (((ledgerAfter adapter scope (front ++ [call])).rowsOf adapter.chainId scope).Perm
            (replay.balances.map (call.balanceRow adapter scope)) ↔
          ∀ earlier ∈ front, ∀ account, earlier.Participates adapter account →
            call.Participates adapter account) := by
    have member : ∀ other ∈ front ++ [call], other.Succeeds adapter scope := by
      intro other mem
      apply succeed other
      rw [split]
      simp only [List.mem_append, List.mem_cons] at mem ⊢
      tauto
    obtain ⟨events, replay, read, run, conserves, writes⟩ := (member call (by simp)).spec
    exact ⟨events, replay, run, conserves, writes _,
      rows_perm_iff (fun earlier mem => member earlier (List.mem_append_left _ mem)) read
        conserves (writes _) (ledgerOf_ledgerAfter member)⟩
  constructor
  · intro last
    by_contra leftOut
    obtain ⟨front, earlier, middle, later, back, split, leaves⟩ :=
      exists_split_of_not_pairwise leftOut
    obtain ⟨_, replay, run, -, -, iff⟩ := at_call split
    exact leaves (iff.mp (last _ later back split replay run).rows earlier (by simp))
  · rintro taken front call back rfl replay run
    obtain ⟨events, replay', run', conserves, writes, iff⟩ := at_call rfl
    rw [run, Except.ok.injEq] at run'
    subst run'
    obtain ⟨-, -, before⟩ := List.pairwise_append.mp taken
    refine isReplayOf_of_perm conserves
      (iff.mpr fun earlier mem => before earlier mem call List.mem_cons_self) ?_
    intro activity mem
    rw [ledgerAfter_concat, writes]
    exact (mem_upsertAll _ _ _ (call.unique_activityRows adapter scope conserves)).mpr
      (Or.inl (List.mem_map_of_mem mem))

end Sequence

/-! ### A holder that is left out

A hundred are minted in block 1 and passed on in block 2. -/

/-- A savings chain that has been deployed at block 1. -/
def sampleAdapter : SavingsChainAdapter :=
  savingsChainAdapter
    ⟨.usdp, HYPEREVM_CHAIN_ID, "hyperevm", "HyperEVM", hyperevmUsdpAddress, some 1⟩
    ⟨.susdp, HYPEREVM_CHAIN_ID, "hyperevm", "HyperEVM", hyperevmSusdpAddress, some 1⟩

/-- An account. -/
def alice : String := "0x1111111111111111111111111111111111111111"

/-- Another account. -/
def bob : String := "0x2222222222222222222222222222222222222222"

/-- A transfer of a hundred USDp. -/
def sampleTransfer (block : ℤ) (sender receiver : String) : ProtocolEventRow where
  rawLogId := 0
  chainId := HYPEREVM_CHAIN_ID
  blockNumber := block
  transactionHash := "0x"
  logIndex := 0
  contractRole := "usdp-token"
  eventName := "Transfer"
  payload := .object [("from", .text sender), ("to", .text receiver), ("value", .decimal 100)]
  decoderVersion := "usdp-token-v1"

/-- Two blocks, with a mint to `alice` and a transfer from her to `bob`. -/
def sampleIndex : Database :=
  { Database.empty with
    blocks := [⟨HYPEREVM_CHAIN_ID, 1, "0x1", "0x0", 1, true⟩,
      ⟨HYPEREVM_CHAIN_ID, 2, "0x2", "0x1", 2, true⟩]
    coverage := [⟨HYPEREVM_CHAIN_ID, "lifetime", 1, 2, 1⟩]
    protocolEvents := [sampleTransfer 1 ZERO_ADDRESS alice, sampleTransfer 2 alice bob] }

/-- The rebuild of the blocks up to this one. -/
def sampleRebuild (toBlock : ℤ) : RebuildCall := ⟨1, toBlock, none, sampleIndex, none⟩

/-- The two transfers as they are read. -/
def sampleEvents : List TransferReplayEvent :=
  [⟨.usdp, 1, 1000, 0, ZERO_ADDRESS, alice, 100⟩, ⟨.usdp, 2, 2000, 0, alice, bob, 100⟩]

theorem transfers_sampleRebuild :
    (sampleRebuild 1).transfers sampleAdapter = .ok (sampleEvents.take 1) ∧
      (sampleRebuild 2).transfers sampleAdapter = .ok sampleEvents := by
  decide +kernel

theorem succeeds_sampleRebuild :
    (sampleRebuild 1).Succeeds sampleAdapter "lifetime" ∧
      (sampleRebuild 2).Succeeds sampleAdapter "lifetime" := by
  decide +kernel

theorem ledger_is_last_replay_iff_growing :
    ∃ replay, (sampleRebuild 2).replay sampleAdapter = .ok replay ∧
      (ledgerAfter sampleAdapter "lifetime" [sampleRebuild 1, sampleRebuild 2]).IsReplayOf
        sampleAdapter "lifetime" (sampleRebuild 2) replay := by
  obtain ⟨_, replay, -, run, -⟩ := succeeds_sampleRebuild.2.spec
  have succeed : ∀ call ∈ [sampleRebuild 1, sampleRebuild 2],
      call.Succeeds sampleAdapter "lifetime" := by
    simpa using succeeds_sampleRebuild
  refine ⟨replay, run, (ledger_is_last_replay_iff succeed).mpr ?_
    [sampleRebuild 1] (sampleRebuild 2) [] rfl replay run⟩
  apply List.pairwise_pair.mpr
  rintro account ⟨ne, events, read, event, mem, took⟩
  rw [transfers_sampleRebuild.1, Except.ok.injEq] at read
  exact ⟨ne, sampleEvents, transfers_sampleRebuild.2, event,
    List.mem_of_mem_take (read ▸ mem), took⟩

/-- **The holder that is left out.**  After the replay of block 1 alone, the row that the
longer range has left for the second holder is still there. -/
theorem shorter_range_leaves_holder :
    (∀ call ∈ [sampleRebuild 2, sampleRebuild 1], call.Succeeds sampleAdapter "lifetime") ∧
    ∃ replay, (sampleRebuild 1).replay sampleAdapter = .ok replay ∧
      ¬ (ledgerAfter sampleAdapter "lifetime" [sampleRebuild 2, sampleRebuild 1]).IsReplayOf
        sampleAdapter "lifetime" (sampleRebuild 1) replay := by
  refine ⟨by simpa using succeeds_sampleRebuild.symm, ?_⟩
  obtain ⟨_, replay, -, run, -⟩ := succeeds_sampleRebuild.1.spec
  refine ⟨replay, run, fun last => ?_⟩
  have two : ((ledgerAfter sampleAdapter "lifetime" [sampleRebuild 2, sampleRebuild 1]).rowsOf
      sampleAdapter.chainId "lifetime").length = 2 := by decide +kernel
  have one : ((sampleRebuild 1).replay sampleAdapter).map (·.balances.length) = .ok 1 := by
    decide +kernel
  rw [run, Except.map, Except.ok.injEq] at one
  have same := last.rows.length_eq
  rw [List.length_map, two, one] at same
  exact absurd same (by decide)

end UsdpIndexer
