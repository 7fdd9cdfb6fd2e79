import UsdpIndexer.Analytics.ChainIndex
import UsdpIndexer.Analytics.HolderHistory
import UsdpIndexer.Indexer.EventBlocks

/-!
# Holder balances are those of the chain

A rebuild of the holder ledger replays what is indexed.  Over a range that is covered this is
what has happened on the chain, so that every row of the ledger is true of the range that the
row names: a balance is what the `Transfer` logs of the two tokens leave on the account, and
an activity is conserved over them (`HolderTables.OnChain`).

The rows of a scope may be of different ranges, since a rebuild replaces the rows of those
who take part in it and leaves the others alone.  Nobody is left out, though: whoever takes
part in the range of an activity has a row.
-/

namespace UsdpIndexer

open KeyedTable hiding Unique
open FailingFold StableOrder

/-! ## The transfers on a chain -/

/-- The roles of the two tokens. -/
def tokenRoles : List String := ["usdp-token", "susdp-savings"]

/-- An event as a transfer, with the time of its block. -/
def timedTransfer (time : ℤ → ℤ) (event : ProtocolEventRow) : Except JsError TransferReplayEvent :=
  transferEvent (⟨event.chainId, event.blockNumber, "", "", time event.blockNumber, true⟩, event)

/-- The transfers among these logs. -/
def transfersOf (viem : Viem) (chainId : ℕ) (time : ℤ → ℤ) (logs : List MinedLog) :
    List TransferReplayEvent :=
  ((logs.filterMap (chainEvent viem chainId)).filter (·.eventName = "Transfer")).filterMap
    fun event => (timedTransfer time event).toOption

/-- What these logs leave on an account. -/
def balanceOf (viem : Viem) (chainId : ℕ) (logs : List MinedLog)
    (account : ParallelAssetId × String) : ℤ :=
  held (transfersOf viem chainId (fun _ => 0) logs) account

/-- A transfer at another time. -/
def TransferReplayEvent.at (event : TransferReplayEvent) (time : ℤ) : TransferReplayEvent :=
  { event with blockTimestamp := time }

/-- The time of a block plays no part in what a transfer moves. -/
theorem timedTransfer_time (time time' : ℤ → ℤ) (event : ProtocolEventRow) :
    timedTransfer time' event
      = (timedTransfer time event).map (·.at (1000 * time' event.blockNumber)) := by
  simp only [timedTransfer, transferEvent]
  cases payloadAddress event.payload "from" with
  | error error => rfl
  | ok fromAddress =>
      cases payloadAddress event.payload "to" with
      | error error => rfl
      | ok toAddress =>
          cases payloadValue event.payload with
          | error error => rfl
          | ok value => rfl

@[simp] theorem held_at (event : TransferReplayEvent) (time : ℤ)
    (account : ParallelAssetId × String) : held [event.at time] account = held [event] account := by
  have moved (wanted : Bool) : ((bif wanted then [event.at time] else []).map (·.value)).sum
      = ((bif wanted then [event] else []).map (·.value)).sum := by
    cases wanted <;> rfl
  rw [held, held, credits, credits, debits, debits, List.filter_singleton, List.filter_singleton,
    List.filter_singleton, List.filter_singleton]
  exact congrArg₂ (· - ·) (moved _) (moved _)

/-- What moves the same moves the same at other times. -/
theorem held_eq_of_forall₂ {history history' : List TransferReplayEvent}
    (same : List.Forall₂ (fun event event' => ∃ time, event' = event.at time) history history')
    (account : ParallelAssetId × String) : held history' account = held history account := by
  induction same with
  | nil => rfl
  | @cons event _ rest rest' head _ ih =>
      obtain ⟨time, rfl⟩ := head
      have split := held_append [event] rest account
      have split' := held_append [event.at time] rest' account
      rw [List.singleton_append] at split split'
      rw [split, split', ih, held_at]

theorem balanceOf_eq (viem : Viem) (chainId : ℕ) (time : ℤ → ℤ) (logs : List MinedLog)
    (account : ParallelAssetId × String) :
    held (transfersOf viem chainId time logs) account = balanceOf viem chainId logs account := by
  refine held_eq_of_forall₂ ?_ account
  rw [transfersOf, transfersOf]
  induction (logs.filterMap (chainEvent viem chainId)).filter (·.eventName = "Transfer") with
  | nil => exact .nil
  | cons event events ih =>
      rw [List.filterMap_cons, List.filterMap_cons, timedTransfer_time (fun _ => 0) time event]
      cases timedTransfer (fun _ => 0) event with
      | error error => exact ih
      | ok transfer => exact .cons ⟨_, rfl⟩ ih

/-- Logs in another order are the same transfers. -/
theorem transfersOf_perm {viem : Viem} {chainId : ℕ} {time : ℤ → ℤ} {logs logs' : List MinedLog}
    (perm : logs.Perm logs') :
    (transfersOf viem chainId time logs).Perm (transfersOf viem chainId time logs') :=
  ((perm.filterMap _).filter _).filterMap _

theorem balanceOf_perm {viem : Viem} {chainId : ℕ} {logs logs' : List MinedLog}
    (perm : logs.Perm logs') (account : ParallelAssetId × String) :
    balanceOf viem chainId logs account = balanceOf viem chainId logs' account :=
  held_perm (transfersOf_perm perm) account

/-! ## What a rebuild reads -/

/-- The stored time of a block. -/
def Database.blockTime (db : Database) (chainId : ℕ) (number : ℤ) : ℤ :=
  ((lookup BlockRow.key db.blocks (chainId, number)).map (·.timestamp)).getD 0

/-- The block an event is joined with. -/
theorem Database.EventsHaveBlocks.lookup_eq {db : Database} (anchored : db.EventsHaveBlocks)
    {event : ProtocolEventRow} (mem : event ∈ db.protocolEvents) :
    ∃ block, lookup BlockRow.key db.blocks (event.chainId, event.blockNumber) = some block := by
  rw [← Option.isSome_iff_exists, Option.isSome_iff_ne_none, Ne, lookup_eq_none_iff]
  exact not_not.mpr (anchored event mem)

/-- The wanted events in their order, each read with its block's time. -/
theorem Database.EventsHaveBlocks.mapM_selectEvents {db : Database}
    (anchored : db.EventsHaveBlocks) {chainId : ℕ} {wanted : ProtocolEventRow → Bool}
    {transfers : List TransferReplayEvent}
    (read : (db.selectEvents chainId wanted).mapM transferEvent = .ok transfers) :
    transfers.Perm ((db.protocolEvents.filter fun event =>
      event.chainId = chainId ∧ wanted event).filterMap
        fun event => (timedTransfer (db.blockTime chainId) event).toOption) := by
  have sorted := perm_sortBy (lexCompare (·.blockNumber) fun event => event.logIndex)
    (db.protocolEvents.filter fun event => event.chainId = chainId ∧ wanted event)
  have inside : ∀ event ∈ sortBy (lexCompare (·.blockNumber) fun event => event.logIndex)
      (db.protocolEvents.filter fun event => event.chainId = chainId ∧ wanted event),
      event ∈ db.protocolEvents ∧ event.chainId = chainId := by
    intro event mem
    obtain ⟨stored, own⟩ := List.mem_filter.mp (mem_sortBy.mp mem)
    rw [decide_eq_true_eq] at own
    exact ⟨stored, own.1⟩
  refine List.Perm.trans (.of_eq ?_) (sorted.filterMap _)
  rw [Database.selectEvents, mapM_eq_ok] at read
  generalize sortBy (lexCompare (·.blockNumber) fun event => event.logIndex)
    (db.protocolEvents.filter fun event => event.chainId = chainId ∧ wanted event) = events
    at read inside
  induction events generalizing transfers with
  | nil =>
      rw [List.filterMap_nil, List.forall₂_nil_left_iff] at read
      rw [read, List.filterMap_nil]
  | cons event events ih =>
      obtain ⟨⟨stored, own⟩, inside⟩ := List.forall_mem_cons.mp inside
      obtain ⟨block, found⟩ := anchored.lookup_eq stored
      rw [own] at found
      rw [List.filterMap_cons, found] at read
      obtain ⟨transfer, rest, first, others, rfl⟩ := List.forall₂_cons_left_iff.mp read
      have own_time : timedTransfer (db.blockTime chainId) event = .ok transfer := by
        rw [← first, timedTransfer, Database.blockTime, found]
        rfl
      rw [List.filterMap_cons, own_time, ih others inside]
      rfl

section Rebuild

variable {viem : Viem} {chains : ℕ → ChainLogs} {watched : Lane → List String}
  {adapter : SavingsChainAdapter} {scope : String} {call : RebuildCall}

/-- **A rebuild of a covered range reads the transfers of the chain.** -/
theorem RebuildCall.transfers_perm (indexes : Indexes viem chains watched call.index)
    (anchored : call.index.EventsHaveBlocks)
    (watches : WatchesRoles (watched ⟨adapter.chainId, scope⟩) adapter.chainId tokenRoles)
    (covered : ∀ block, call.fromBlock ≤ block → block ≤ call.toBlock →
      call.index.CoveredFor ⟨adapter.chainId, scope⟩ block) {logs : List MinedLog}
    (lists : (chains adapter.chainId).Lists adapter.chainId tokenRoles call.fromBlock call.toBlock
      logs)
    {events : List TransferReplayEvent} (read : call.transfers adapter = .ok events) :
    events.Perm
      (transfersOf viem adapter.chainId (call.index.blockTime adapter.chainId) logs) := by
  have stored := anchored.mapM_selectEvents read
  have rows : (call.index.protocolEvents.filter fun event =>
        event.chainId = adapter.chainId ∧ (decide (call.fromBlock ≤ event.blockNumber ∧
          event.blockNumber ≤ call.toBlock ∧ event.eventName = "Transfer" ∧
          event.contractRole ∈ ["usdp-token", "susdp-savings"])) = true)
      = (call.index.eventsOf adapter.chainId tokenRoles call.fromBlock call.toBlock).filter
          (·.eventName = "Transfer") := by
    rw [Database.eventsOf, List.filter_filter]
    refine List.filter_congr fun event _ => ?_
    simp only [tokenRoles, decide_eq_true_eq]
    grind
  rw [rows] at stored
  refine stored.trans ?_
  have decoded := indexes.store.events_perm watches covered lists
  have perm := (decoded.filter (·.eventName = "Transfer")).filterMap
    fun event => (timedTransfer (call.index.blockTime adapter.chainId) event).toOption
  refine List.Perm.trans (.of_eq ?_) perm
  -- the number of an event plays no part
  rw [List.filter_map, List.filterMap_map]
  rfl

/-- **What a call does to the tables**: nothing, or it has found its range complete and writes
the replay of its transfers. -/
theorem rebuildHolderLedger_cases (tables : HolderTables) :
    (rebuildHolderLedger adapter scope call tables).2 = tables ∨
      ∃ coverage events replay,
        verifyCoverage call.index scope call.fromBlock call.toBlock adapter.chainId
          = .ok coverage ∧ coverage.complete = true ∧
        call.transfers adapter = .ok events ∧ replay.Conserves events ∧
        (rebuildHolderLedger adapter scope call tables).2
          = call.write adapter scope replay tables := by
  unfold rebuildHolderLedger
  split
  · exact .inl rfl
  · rename_i coverage verified
    split
    · exact .inl rfl
    · rename_i complete
      split
      · exact .inl rfl
      · rename_i events read
        split
        · exact .inl rfl
        · rename_i replay run
          split
          · exact .inl rfl
          · exact .inr ⟨coverage, events, replay, verified, not_not.mp complete, read,
              conserves_of_replay run, rfl⟩

end Rebuild

/-! ## The rows -/

/-- The balance is what the transfers of the row's own range leave on the account. -/
structure HolderBalanceRow.OnChain (viem : Viem) (chains : ℕ → ChainLogs)
    (row : HolderBalanceRow) : Prop where
  complete : row.historyComplete = true
  zero : row.holderAddress ≠ ZERO_ADDRESS
  nonneg : 0 ≤ row.balance
  balance : ∃ logs, (chains row.chainId).Lists row.chainId tokenRoles row.sourceFromBlock
    row.sourceToBlock logs ∧
    row.balance = balanceOf viem row.chainId logs (row.assetId, row.holderAddress)

/-- The activity is that of a replay of the transfers of the row's range, and whoever takes
part in them has a balance in the row's scope. -/
def AssetActivityRow.OnChain (viem : Viem) (chains : ℕ → ChainLogs)
    (balances : List HolderBalanceRow) (row : AssetActivityRow) : Prop :=
  ∃ logs time replay,
    (chains row.chainId).Lists row.chainId tokenRoles row.sourceFromBlock row.sourceToBlock logs ∧
    HolderReplay.Conserves replay (transfersOf viem row.chainId time logs) ∧
    row.activity ∈ replay.activity ∧
    ∀ balance ∈ replay.balances,
      (row.chainId, row.sourceScope, balance.key) ∈ balances.map HolderBalanceRow.key

/-- The lane that a balance has been rebuilt from. -/
def HolderBalanceRow.lane (row : HolderBalanceRow) : Lane := ⟨row.chainId, row.sourceScope⟩

/-- The lane that an activity has been rebuilt from. -/
def AssetActivityRow.lane (row : AssetActivityRow) : Lane := ⟨row.chainId, row.sourceScope⟩

/-- What the holder tables have from certain lanes belongs to the chains. -/
structure HolderTables.OnChain (viem : Viem) (chains : ℕ → ChainLogs) (lanes : Lane → Prop)
    (tables : HolderTables) : Prop where
  unique : KeyedTable.Unique HolderBalanceRow.key tables.balances
  balances : ∀ row ∈ tables.balances, lanes row.lane → row.OnChain viem chains
  activity : ∀ row ∈ tables.activity, lanes row.lane → row.OnChain viem chains tables.balances

section Rows

variable {viem : Viem} {chains : ℕ → ChainLogs} {watched : Lane → List String}
  {lanes : Lane → Prop} {adapter : SavingsChainAdapter} {scope : String} {call : RebuildCall}
  {tables : HolderTables}

theorem HolderTables.OnChain.empty : HolderTables.OnChain viem chains lanes .empty where
  unique := unique_nil _
  balances := fun _ mem => absurd mem List.not_mem_nil
  activity := fun _ mem => absurd mem List.not_mem_nil

/-- **A rebuild keeps the tables on the chain**, whatever its range, and whatever its scope as
long as the lanes in question watch the two tokens: it reads what there is of their events. -/
theorem HolderTables.OnChain.rebuildHolderLedger (onChain : tables.OnChain viem chains lanes)
    (indexes : Indexes viem chains watched call.index) (anchored : call.index.EventsHaveBlocks)
    (watches : lanes ⟨adapter.chainId, scope⟩ →
      WatchesRoles (watched ⟨adapter.chainId, scope⟩) adapter.chainId tokenRoles) :
    (UsdpIndexer.rebuildHolderLedger adapter scope call tables).2.OnChain viem chains lanes := by
  rcases @rebuildHolderLedger_cases adapter scope call tables
    with same | ⟨coverage, events, replay, verified, complete, read, conserves, written⟩
  · rw [same]
    exact onChain
  · have covered := indexes.covered_of_complete verified complete
    have onLane (mine : lanes ⟨adapter.chainId, scope⟩) : ∃ logs,
        (chains adapter.chainId).Lists adapter.chainId tokenRoles call.fromBlock call.toBlock
          logs ∧
        replay.Conserves (transfersOf viem adapter.chainId
          (call.index.blockTime adapter.chainId) logs) := by
      obtain ⟨logs, lists⟩ := @StoreInvariant.exists_lists _ _ _ _ ⟨adapter.chainId, scope⟩ _ _ _
        indexes.store (watches mine) covered
      exact ⟨logs, lists, conserves.perm (RebuildCall.transfers_perm indexes anchored
        (watches mine) covered lists read)⟩
    have unique := call.unique_balanceRows adapter scope conserves
    have keys (key : ℕ × String × ParallelAssetId × String) :
        key ∈ (call.write adapter scope replay tables).balances.map HolderBalanceRow.key ↔
          key ∈ tables.balances.map HolderBalanceRow.key ∨
          key ∈ (replay.balances.map (call.balanceRow adapter scope)).map HolderBalanceRow.key := by
      rw [call.balances_write, key_mem_upsertAll _ unique]
    rw [written]
    refine ⟨?_, fun row mem mine => ?_, fun row mem mine => ?_⟩
    · rw [call.balances_write]
      exact unique_upsertAll _ _ _ onChain.unique
    · rw [call.balances_write] at mem
      rcases (mem_upsertAll _ _ _ unique).mp mem with new | ⟨old, -⟩
      · obtain ⟨balance, stored, rfl⟩ := List.mem_map.mp new
        obtain ⟨logs, lists, mined⟩ := onLane mine
        refine ⟨rfl, conserves.zero balance stored, conserves.nonneg balance stored, logs, lists,
          ?_⟩
        rw [← balanceOf_eq viem _ (call.index.blockTime adapter.chainId)]
        exact mined.balance balance stored
      · exact onChain.balances row old mine
    · rcases (mem_upsertAll _ _ _ (call.unique_activityRows adapter scope conserves)).mp mem
        with new | ⟨old, -⟩
      · obtain ⟨activity, stored, rfl⟩ := List.mem_map.mp new
        obtain ⟨logs, lists, mined⟩ := onLane mine
        refine ⟨logs, _, replay, lists, mined, stored, fun balance hbalance => ?_⟩
        refine (keys _).mpr (.inr ?_)
        exact List.mem_map_of_mem (List.mem_map_of_mem hbalance)
      · -- nobody's row is taken away
        obtain ⟨logs, time, replay', lists, mined, stored, everybody⟩ :=
          onChain.activity row old mine
        exact ⟨logs, time, replay', lists, mined, stored, fun balance mem =>
          (keys _).mpr (.inl (everybody balance mem))⟩

/-- Who holds something has taken part in a transfer. -/
theorem exists_event_of_held_ne_zero {history : List TransferReplayEvent}
    {account : ParallelAssetId × String} (holds : held history account ≠ 0) :
    ∃ event ∈ history, event.assetId = account.1 ∧
      (event.sender = account.2 ∨ event.receiver = account.2) := by
  by_contra none
  push Not at none
  refine holds ?_
  have noCredit : (history.filter fun event =>
      event.assetId = account.1 ∧ event.receiver = account.2) = [] :=
    List.filter_eq_nil_iff.mpr fun event mem own =>
      (none event mem (of_decide_eq_true own).1).2 (of_decide_eq_true own).2
  have noDebit : (history.filter fun event =>
      event.assetId = account.1 ∧ event.sender = account.2) = [] :=
    List.filter_eq_nil_iff.mpr fun event mem own =>
      (none event mem (of_decide_eq_true own).1).1 (of_decide_eq_true own).2
  rw [held, credits, debits, noCredit, noDebit]
  rfl

/-- **Nobody is left out**: whoever holds something at the end of the range of an activity has
a balance in its scope. -/
theorem HolderTables.OnChain.exists_balance (onChain : tables.OnChain viem chains lanes)
    {row : AssetActivityRow} (mem : row ∈ tables.activity) (mine : lanes row.lane)
    {logs : List MinedLog}
    (lists : (chains row.chainId).Lists row.chainId tokenRoles row.sourceFromBlock
      row.sourceToBlock logs) {account : ParallelAssetId × String}
    (zero : account.2 ≠ ZERO_ADDRESS) (holds : balanceOf viem row.chainId logs account ≠ 0) :
    ∃ balance ∈ tables.balances,
      balance.key = (row.chainId, row.sourceScope, account) := by
  obtain ⟨logs', time, replay, lists', conserves, -, everybody⟩ := onChain.activity row mem mine
  rw [balanceOf_perm (lists.perm lists'), ← balanceOf_eq viem row.chainId time] at holds
  obtain ⟨balance, stored, same⟩ := (conserves.holders account.1 account.2).mpr
    ⟨zero, exists_event_of_held_ne_zero holds⟩
  have listed := everybody balance stored
  rw [same] at listed
  exact List.mem_map.mp listed

end Rows

end UsdpIndexer
