import UsdpIndexer.Analytics.ChainFlows
import UsdpIndexer.Analytics.ChainHolders
import UsdpIndexer.Analytics.LogAnchors

/-!
# The whole database

The index, the snapshots and the yields, the flow buckets and the holder ledger: every table
that a number of the dashboard is read from, with the chunks of the indexer, the calls of the
analytics and the two rebuilds as steps.  Any of them may come at any time and fail anywhere.

What is stored belongs to the chains after every sequence of calls (`onChain_run`): whether a
row is true does not depend on what else has been done, or in which order.  Of the holders
this is so lane by lane, since a rebuild takes any scope and does not look whether both tokens
have been indexed under it.
-/

namespace UsdpIndexer

open KeyedTable hiding Unique

/-! ## The machine -/

/-- All tables that the workers write. -/
structure WholeDatabase where
  analytics : AnalyticsDatabase
  flows : FlowTables
  holders : HolderTables

/-- No row. -/
def WholeDatabase.empty : WholeDatabase := ⟨.empty, .empty, .empty⟩

/-- A call that writes some of them. -/
inductive DatabaseCall
  | analytics (input : TimedCall)
  | rebuildFlowAnalytics (options : RebuildFlowAnalyticsOptions) (faults : Faults)
  | rebuildHolderLedger (adapter : SavingsChainAdapter) (scope : String) (fromBlock toBlock : ℤ)
      (calculationVersion : Option String) (fault : Option JsError)

/-- What a rebuild of the flows throws. -/
def RebuildError.error : RebuildError → JsError
  | .thrown error | .failed error | .violation error => error

/-- The error of a call, if it throws. -/
def thrown {α : Type} : Except JsError α → List JsError
  | .ok _ => []
  | .error error => [error]

/-- The rebuild of the holders on what is indexed. -/
def holderCall (index : Database) (fromBlock toBlock : ℤ) (calculationVersion : Option String)
    (fault : Option JsError) : RebuildCall :=
  ⟨fromBlock, toBlock, calculationVersion, index, fault⟩

/-- One call on the tables as they are; an error becomes visible. -/
def databaseStep (viem : Viem) (keccak256 : String → String) (isAddress : String → Bool)
    (call : DatabaseCall) (db : WholeDatabase) : WholeDatabase × List JsError :=
  match call with
  | .analytics input =>
      let (analytics, errors) := analyticsStep viem keccak256 input db.analytics
      ({ db with analytics }, errors)
  | .rebuildFlowAnalytics options faults =>
      let (result, flows) :=
        FlowCall.rebuild isAddress ⟨db.analytics.index, options, faults⟩ db.flows
      ({ db with flows }, thrown (result.mapError RebuildError.error))
  | .rebuildHolderLedger adapter scope fromBlock toBlock calculationVersion fault =>
      let (result, holders) := UsdpIndexer.rebuildHolderLedger adapter scope
        (holderCall db.analytics.index fromBlock toBlock calculationVersion fault) db.holders
      ({ db with holders }, thrown result)

/-- The database after a sequence of calls, from empty tables. -/
def databaseRun (viem : Viem) (keccak256 : String → String) (isAddress : String → Bool)
    (calls : List DatabaseCall) : WholeDatabase :=
  (Machine.run (databaseStep viem keccak256 isAddress) calls .empty).1

/-- If every log has its block, every event has it. -/
theorem Indexes.eventsHaveBlocks {viem : Viem} {chains : ℕ → ChainLogs}
    {watched : Lane → List String} {db : Database} (indexes : Indexes viem chains watched db)
    (refer : db.LogsReferToBlocks) : db.EventsHaveBlocks := by
  intro event mem
  obtain ⟨row, hrow, log, decoded, -, stores, -, rfl⟩ := indexes.store.events_sound event mem
  have block : row.blockNumber = log.blockNumber := congrArg RawLogRow.blockNumber stores
  obtain ⟨stored, found⟩ := refer row hrow
  rw [block] at found
  exact List.mem_map.mpr ⟨stored, mem_of_lookup _ found, key_eq_of_lookup _ found⟩

/-! ## What is stored belongs to the chains -/

/-- The tables belong to the chains, with the holders that certain lanes have been rebuilt
for. -/
structure WholeDatabase.OnChainIn (viem : Viem) (chains : ℕ → ChainLogs)
    (watched : Lane → List String) (lanes : Lane → Prop) (db : WholeDatabase) : Prop where
  yields : YieldsOnChain viem chains watched db.analytics
  blocks : db.analytics.index.LogsReferToBlocks
  flows : db.flows.OnChain viem chains
  holders : db.holders.OnChain viem chains lanes

/-- All that the tables hold belongs to the chains. -/
abbrev WholeDatabase.OnChain (viem : Viem) (chains : ℕ → ChainLogs)
    (watched : Lane → List String) (db : WholeDatabase) : Prop :=
  db.OnChainIn viem chains watched fun _ => True

/-- What is promised of a call: a chunk holds what the chain has, and a rebuild of the holders
that names one of these lanes names one that watches the two tokens. -/
def DatabaseCall.PromisedIn (chains : ℕ → ChainLogs) (watched : Lane → List String)
    (lanes : Lane → Prop) : DatabaseCall → Prop
  | .analytics input => input.call.Exact chains watched
  | .rebuildFlowAnalytics _ _ => True
  | .rebuildHolderLedger adapter scope _ _ _ _ => lanes ⟨adapter.chainId, scope⟩ →
      WatchesRoles (watched ⟨adapter.chainId, scope⟩) adapter.chainId tokenRoles

/-- Of all lanes. -/
abbrev DatabaseCall.Promised (chains : ℕ → ChainLogs) (watched : Lane → List String)
    (call : DatabaseCall) : Prop :=
  call.PromisedIn chains watched fun _ => True

section Run

variable {viem : Viem} {chains : ℕ → ChainLogs} {watched : Lane → List String}
  {lanes : Lane → Prop} {keccak256 : String → String} {isAddress : String → Bool}
  {db : WholeDatabase}

theorem WholeDatabase.OnChainIn.empty :
    WholeDatabase.OnChainIn viem chains watched lanes .empty where
  yields := .empty
  blocks := fun _ mem => absurd mem List.not_mem_nil
  flows := .empty
  holders := .empty

/-- **Every call keeps what is stored on the chains.** -/
theorem WholeDatabase.OnChainIn.step (onChain : db.OnChainIn viem chains watched lanes)
    (watches : WatchesVaults watched) {call : DatabaseCall}
    (promised : call.PromisedIn chains watched lanes) :
    (databaseStep viem keccak256 isAddress call db).1.OnChainIn viem chains watched lanes := by
  have anchored := onChain.yields.index.eventsHaveBlocks onChain.blocks
  cases call with
  | analytics input =>
      exact ⟨onChain.yields.step watches promised, (logsAnchored_step input onChain.blocks).1,
        onChain.flows, onChain.holders⟩
  | rebuildFlowAnalytics options faults =>
      exact ⟨onChain.yields, onChain.blocks,
        onChain.flows.rebuild onChain.yields.index anchored watches, onChain.holders⟩
  | rebuildHolderLedger adapter scope fromBlock toBlock calculationVersion fault =>
      exact ⟨onChain.yields, onChain.blocks, onChain.flows,
        onChain.holders.rebuildHolderLedger onChain.yields.index anchored promised⟩

theorem onChain_run (watches : WatchesVaults watched) {calls : List DatabaseCall}
    (promised : ∀ call ∈ calls, call.PromisedIn chains watched lanes) :
    (databaseRun viem keccak256 isAddress calls).OnChainIn viem chains watched lanes := by
  have along : Machine.Along (databaseStep viem keccak256 isAddress)
      (fun call _ => call.PromisedIn chains watched lanes) calls .empty :=
    Machine.along_of_forall promised
  refine Machine.run_invariant_along
    (fun (db : WholeDatabase) _ => db.OnChainIn viem chains watched lanes) ?_ calls along .empty
  intro call db _ promised onChain
  exact onChain.step watches promised

end Run

end UsdpIndexer
