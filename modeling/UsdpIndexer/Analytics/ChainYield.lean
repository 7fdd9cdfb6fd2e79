import UsdpIndexer.Analytics.ChainIndex
import UsdpIndexer.Analytics.YieldIdentity

/-!
# Stored yields are those of the chain

An interval row states the interest that a vault has accrued between two blocks.  The number
is a sum over `protocol_events`; what it stands for is a sum over the `Accrued` logs of the
vault.  `YieldsOnChain` says that the two agree for every row, and that the row's yield is
this interest and the change of the pending yield between the snapshots that it names.

Whatever the calls of the analytics and the chunks of the indexer are, and in whatever order
they come, this holds of all rows at any time, provided that the chunks hold what the chain
has (`yields_on_chain`).
-/

namespace UsdpIndexer

open SerialTable FailingFold

/-! ## The interest of a vault -/

/-- The role of the vault. -/
def vaultRoles : List String := ["susdp-savings"]

/-- The interest that is stated by the `Accrued` logs among these. -/
def accruedInterestOf (viem : Viem) (chainId : ℕ) (logs : List MinedLog) : Except JsError ℤ :=
  (((logs.filterMap (chainEvent viem chainId)).filter (·.eventName = "Accrued")).mapM
    fun event => payloadNumeric event.payload "interest").map List.sum

/-- Logs in another order state the same interest. -/
theorem accruedInterestOf_perm {viem : Viem} {chainId : ℕ} {logs logs' : List MinedLog}
    {total : ℤ} (perm : logs'.Perm logs) (read : accruedInterestOf viem chainId logs = .ok total) :
    accruedInterestOf viem chainId logs' = .ok total := by
  obtain ⟨interests, run, rfl⟩ := map_eq_ok.mp read
  obtain ⟨interests', run', same⟩ :=
    exists_mapM_eq_ok_of_perm ((perm.filterMap _).filter _) run
  exact map_eq_ok.mpr ⟨interests', run', same.sum_eq⟩

theorem accruedInterestOf_append {viem : Viem} {chainId : ℕ} {logs logs' : List MinedLog}
    {total total' : ℤ} (read : accruedInterestOf viem chainId logs = .ok total)
    (read' : accruedInterestOf viem chainId logs' = .ok total') :
    accruedInterestOf viem chainId (logs ++ logs') = .ok (total + total') := by
  obtain ⟨interests, run, rfl⟩ := map_eq_ok.mp read
  obtain ⟨interests', run', rfl⟩ := map_eq_ok.mp read'
  rw [mapM_eq_ok] at run run'
  refine map_eq_ok.mpr ⟨interests ++ interests', mapM_eq_ok.mpr ?_, List.sum_append⟩
  rw [List.filterMap_append, List.filter_append]
  exact List.rel_append run run'

section Invariant

variable {viem : Viem} {chains : ℕ → ChainLogs} {watched : Lane → List String}

/-- The interest that is summed up over a covered range is that of the logs of the vault. -/
theorem StoreInvariant.sumAccruedInterest_eq_ok {db : Database}
    (inv : StoreInvariant viem chains watched db) {lane : Lane} {fromBlock toBlock : ℤ}
    (watches : WatchesRoles (watched lane) lane.chainId vaultRoles)
    (covered : ∀ block, fromBlock < block → block ≤ toBlock → db.CoveredFor lane block)
    {total : ℤ} (sum : sumAccruedInterest db lane.chainId fromBlock toBlock = .ok total) :
    ∃ logs, (chains lane.chainId).Lists lane.chainId vaultRoles (fromBlock + 1) toBlock logs ∧
      accruedInterestOf viem lane.chainId logs = .ok total := by
  have events : (db.protocolEvents.filter fun event =>
        event.chainId = lane.chainId ∧ event.contractRole = "susdp-savings" ∧
          event.eventName = "Accrued" ∧ fromBlock < event.blockNumber ∧
          event.blockNumber ≤ toBlock)
      = (db.eventsOf lane.chainId vaultRoles (fromBlock + 1) toBlock).filter
          (·.eventName = "Accrued") := by
    rw [Database.eventsOf, List.filter_filter]
    refine List.filter_congr fun event _ => ?_
    simp only [vaultRoles, List.mem_singleton, Bool.decide_and, ← Bool.and_assoc,
      Int.add_one_le_iff]
    grind
  rw [sumAccruedInterest, events] at sum
  obtain ⟨interests, run, rfl⟩ := map_eq_ok.mp sum
  -- the number of an event plays no part
  have unnumbered : (((db.eventsOf lane.chainId vaultRoles (fromBlock + 1) toBlock).map
        ProtocolEventRow.unnumbered).filter (·.eventName = "Accrued")).mapM
          (fun event => payloadNumeric event.payload "interest") = .ok interests := by
    rw [List.filter_map, List.mapM_map]
    exact run
  have inside (block : ℤ) (lower : fromBlock + 1 ≤ block) (upper : block ≤ toBlock) :
      db.CoveredFor lane block := covered block (by omega) upper
  obtain ⟨logs, lists⟩ := inv.exists_lists watches inside
  obtain ⟨interests', run', same⟩ := exists_mapM_eq_ok_of_perm
    ((inv.events_perm watches inside lists).symm.filter _) unnumbered
  exact ⟨logs, lists, map_eq_ok.mpr ⟨interests', run', same.sum_eq⟩⟩

end Invariant

/-! ## The rows -/

/-- The row is the yield of the vault between two blocks: the snapshots it names are of these
blocks, its interest is that of the logs after the first block, up to the second, and its
yield is this interest and the change of what was pending. -/
structure SavingsYieldInterval.OnChain (viem : Viem) (chains : ℕ → ChainLogs)
    (snapshots : SerialTable SavingsChainSnapshot) (row : SavingsYieldInterval) : Prop where
  ordered : row.fromBlock < row.toBlock
  starts : ∃ start, snapshots.find? row.startSnapshotId = some start ∧
    start.chainId = row.chainId ∧ start.blockNumber = row.fromBlock ∧
    start.blockTimestamp = row.windowStart ∧ start.susdpPendingYield = row.pendingYieldAtStart
  ends : ∃ finish, snapshots.find? row.endSnapshotId = some finish ∧
    finish.chainId = row.chainId ∧ finish.blockNumber = row.toBlock ∧
    finish.blockTimestamp = row.windowEnd ∧ finish.susdpPendingYield = row.pendingYieldAtEnd
  interest : ∃ logs, (chains row.chainId).Lists row.chainId vaultRoles (row.fromBlock + 1)
    row.toBlock logs ∧ accruedInterestOf viem row.chainId logs = .ok row.accruedInterest
  ypo : row.nativeYpo = row.accruedInterest + row.pendingYieldAtEnd - row.pendingYieldAtStart

/-- The index belongs to the chains, and so do the yields. -/
structure YieldsOnChain (viem : Viem) (chains : ℕ → ChainLogs) (watched : Lane → List String)
    (db : AnalyticsDatabase) : Prop where
  index : Indexes viem chains watched db.index
  rows : ∀ row ∈ db.yields.values, row.OnChain viem chains db.savingsSnapshots

/-- The chunks hold what the chain has; nothing is promised of other calls. -/
def AnalyticsCall.Exact (chains : ℕ → ChainLogs) (watched : Lane → List String) :
    AnalyticsCall → Prop
  | .persistChunk _ chunk _ => chunk.Exact chains watched
  | _ => True

/-- Every lane watches the vault of its chain. -/
def WatchesVaults (watched : Lane → List String) : Prop :=
  ∀ lane : Lane, WatchesRoles (watched lane) lane.chainId vaultRoles

section Rows

variable {viem : Viem} {chains : ℕ → ChainLogs} {watched : Lane → List String}
  {db db' : AnalyticsDatabase}

theorem YieldsOnChain.empty : YieldsOnChain viem chains watched .empty where
  index := .empty
  rows := fun _ mem => absurd mem List.not_mem_nil

/-- In whatever order the logs of the vault are listed, they state the interest of the row. -/
theorem SavingsYieldInterval.OnChain.accruedInterestOf_eq
    {snapshots : SerialTable SavingsChainSnapshot} {row : SavingsYieldInterval}
    (onChain : row.OnChain viem chains snapshots) {logs : List MinedLog}
    (lists : (chains row.chainId).Lists row.chainId vaultRoles (row.fromBlock + 1) row.toBlock
      logs) : accruedInterestOf viem row.chainId logs = .ok row.accruedInterest := by
  obtain ⟨logs', lists', read⟩ := onChain.interest
  exact accruedInterestOf_perm (lists.perm lists') read

/-- Snapshots are not taken away. -/
theorem SavingsYieldInterval.OnChain.extends
    {snapshots snapshots' : SerialTable SavingsChainSnapshot} {row : SavingsYieldInterval}
    (onChain : row.OnChain viem chains snapshots) (grows : snapshots.Extends snapshots') :
    row.OnChain viem chains snapshots' where
  ordered := onChain.ordered
  starts := by
    obtain ⟨start, found, rest⟩ := onChain.starts
    exact ⟨start, grows found, rest⟩
  ends := by
    obtain ⟨finish, found, rest⟩ := onChain.ends
    exact ⟨finish, grows found, rest⟩
  interest := onChain.interest
  ypo := onChain.ypo

/-- A boundary snapshot is of the chain and of the block that is asked for. -/
theorem AnalyticsDatabase.of_boundarySnapshot {options : CalculateSavingsYieldOptions} {block : ℤ}
    {row : ℕ × SavingsChainSnapshot} (selected : db.boundarySnapshot options block = some row) :
    row.2.chainId = options.adapter.chainId ∧ row.2.blockNumber = block := by
  have chosen := SelectFirst.mem_of_mem_distinctOn (List.mem_of_find?_eq_some selected)
  have wanted := (List.mem_filter.mp chosen).2
  rw [decide_eq_true_eq] at wanted
  exact ⟨wanted.1, by simpa using List.find?_some selected⟩

/-- **What a calculated interval is made of**, if anything is stored. -/
theorem calculateSavingsYieldForRange_eq_ok {options : CalculateSavingsYieldOptions}
    {result : SavingsYieldResult} (ok : calculateSavingsYieldForRange options db
      = .ok (result, db')) :
    db' = db ∨ ∃ coverage start finish accruedInterest nativeYpo,
      options.fromBlock < options.toBlock ∧
      verifyCoverage db.index options.scope options.fromBlock options.toBlock
        options.adapter.chainId = .ok coverage ∧ coverage.complete = true ∧
      db.boundarySnapshot options options.fromBlock = some start ∧
      db.boundarySnapshot options options.toBlock = some finish ∧
      sumAccruedInterest db.index options.adapter.chainId options.fromBlock options.toBlock
        = .ok accruedInterest ∧
      nativeYpo = accruedInterest + finish.2.susdpPendingYield - start.2.susdpPendingYield ∧
      db' = { db with
        yields := (db.yields.insertOrSelect SavingsYieldInterval.key
          (options.interval start finish accruedInterest nativeYpo db.clock)).2 } := by
  unfold calculateSavingsYieldForRange at ok
  split at ok
  · cases ok
  · rename_i ordered
    obtain ⟨coverage, verified, ok⟩ := bind_eq_ok.mp ok
    split at ok
    · cases ok
      exact .inl rfl
    · rename_i complete
      split at ok
      · rename_i start finish starts ends
        split at ok
        · cases ok
          exact .inl rfl
        · obtain ⟨accruedInterest, sum, ok⟩ := bind_eq_ok.mp ok
          obtain ⟨nativeYpo, ypo, ok⟩ := bind_eq_ok.mp ok
          obtain ⟨⟨savingsYieldId, stored⟩, inserted, ok⟩ := bind_eq_ok.mp ok
          cases ok
          exact .inr ⟨coverage, start, finish, accruedInterest, nativeYpo, not_le.mp ordered,
            verified, by simpa using complete, starts, ends, sum,
            (calculateNativeYpo_eq_ok.mp ypo).1, insertYield_eq_ok inserted⟩
      · cases ok
        exact .inl rfl

/-- **A calculated interval is the chain's.** -/
theorem YieldsOnChain.calculateSavingsYieldForRange (onChain : YieldsOnChain viem chains watched db)
    (watches : WatchesVaults watched) {options : CalculateSavingsYieldOptions}
    {result : SavingsYieldResult}
    (ok : UsdpIndexer.calculateSavingsYieldForRange options db = .ok (result, db')) :
    YieldsOnChain viem chains watched db' := by
  rcases calculateSavingsYieldForRange_eq_ok ok with rfl |
    ⟨coverage, start, finish, accruedInterest, nativeYpo, ordered, verified, complete, starts,
      ends, sum, ypo, rfl⟩
  · exact onChain
  · refine ⟨onChain.index, fun row mem => ?_⟩
    rcases mem_values_insertOrSelect mem with old | rfl
    · exact onChain.rows row old
    · obtain ⟨startChain, startBlock⟩ := AnalyticsDatabase.of_boundarySnapshot starts
      obtain ⟨endChain, endBlock⟩ := AnalyticsDatabase.of_boundarySnapshot ends
      have covered := onChain.index.covered_of_complete verified complete
      exact
        { ordered := ordered
          starts := ⟨start.2, db.find?_of_boundarySnapshot starts, startChain, startBlock, rfl, rfl⟩
          ends := ⟨finish.2, db.find?_of_boundarySnapshot ends, endChain, endBlock, rfl, rfl⟩
          interest := onChain.index.store.sumAccruedInterest_eq_ok (watches _)
            (fun block lower upper => covered block lower.le upper) sum
          ypo := ypo }

/-- A call that neither persists a chunk nor calculates an interval leaves the intervals what
they are; it may change their status. -/
theorem YieldsOnChain.effect {call : AnalyticsCall} (effect : Effect db call db')
    (indexed : ∀ fault chunk counters, call ≠ .persistChunk fault chunk counters)
    (calculated : ∀ options, call ≠ .calculateSavingsYieldForRange options)
    (onChain : YieldsOnChain viem chains watched db) : YieldsOnChain viem chains watched db' := by
  cases effect with
  | indexed fault chunk counters => exact absurd rfl (indexed fault chunk counters)
  | interval options => exact absurd rfl (calculated options)
  | savingsSnapshot options blocks assetSnapshots row =>
      refine ⟨onChain.index.of_eq _ rfl rfl rfl rfl, fun interval mem => ?_⟩
      exact (onChain.rows interval mem).extends (extends_insertOrSelect _ _ row)
  | reconciled chainId savingsYieldId selected reconciliation =>
      refine ⟨onChain.index, fun row mem => ?_⟩
      obtain ⟨id, stored, found, rfl⟩ := mem_values_update mem
      have same := onChain.rows stored (mem_values_of_find? found)
      split
      · exact ⟨same.ordered, same.starts, same.ends, same.interest, same.ypo⟩
      · exact same
  | _ => exact ⟨onChain.index.of_eq _ rfl rfl rfl rfl, onChain.rows⟩

/-- **Every call keeps the yields on the chain.** -/
theorem YieldsOnChain.perform {keccak256 : String → String} {call : AnalyticsCall}
    (onChain : YieldsOnChain viem chains watched db) (watches : WatchesVaults watched)
    (fetched : call.Exact chains watched) (result : call.perform viem keccak256 db = .ok db') :
    YieldsOnChain viem chains watched db' := by
  by_cases indexed : ∀ fault chunk counters, call ≠ .persistChunk fault chunk counters
  · by_cases calculated : ∀ options, call ≠ .calculateSavingsYieldForRange options
    · exact onChain.effect (perform_effect result) indexed calculated
    · obtain ⟨options, rfl⟩ := not_forall_not.mp calculated
      obtain ⟨⟨answer, _⟩, ok, rfl⟩ := map_eq_ok.mp result
      exact onChain.calculateSavingsYieldForRange watches ok
  · push Not at indexed
    obtain ⟨fault, chunk, counters, rfl⟩ := indexed
    obtain ⟨_, -, rfl⟩ := map_eq_ok.mp result
    exact ⟨onChain.index.persistChunk fetched fault counters, onChain.rows⟩

theorem YieldsOnChain.step {keccak256 : String → String} {input : TimedCall}
    (onChain : YieldsOnChain viem chains watched db) (watches : WatchesVaults watched)
    (fetched : input.call.Exact chains watched) :
    YieldsOnChain viem chains watched (analyticsStep viem keccak256 input db).1 := by
  have waited : YieldsOnChain viem chains watched (db.wait input.wait) :=
    ⟨onChain.index, onChain.rows⟩
  unfold analyticsStep
  split
  · rename_i performed
    exact waited.perform watches fetched performed
  · exact waited

theorem yieldsOnChain_run (keccak256 : String → String) (watches : WatchesVaults watched)
    {calls : List TimedCall} (fetched : ∀ input ∈ calls, input.call.Exact chains watched) :
    YieldsOnChain viem chains watched (analyticsRun viem keccak256 calls .empty) := by
  have promised : Machine.Along (analyticsStep viem keccak256)
      (fun input _ => input.call.Exact chains watched) calls .empty :=
    Machine.along_of_forall fetched
  refine Machine.run_invariant_along (fun db _ => YieldsOnChain viem chains watched db) ?_ calls
    promised .empty
  intro input db _ fetched onChain
  exact onChain.step watches fetched

end Rows

/-- **Stored yields are those of the chain.**  Every lane watches the vault of its chain, and every
chunk holds exactly what the chain has for its lane.  Then after any calls, in any order and
with whatever failures, every interval row names snapshots of its two blocks, states the
interest of the chain's `Accrued` logs between them, and its yield is this interest and the
change of what was pending. -/
theorem yields_on_chain (viem : Viem) (keccak256 : String → String) (chains : ℕ → ChainLogs)
    (watched : Lane → List String) (watches : WatchesVaults watched) (calls : List TimedCall)
    (fetched : ∀ input ∈ calls, input.call.Exact chains watched) :
    let db := analyticsRun viem keccak256 calls .empty
    ∀ row ∈ db.yields.values, row.OnChain viem chains db.savingsSnapshots := by
  exact (yieldsOnChain_run keccak256 watches fetched).rows

/-! ## Intervals end to end -/

/-- The intervals of a chain lie end to end from a block and its snapshot to another block and
its snapshot. -/
def EndToEnd (chainId : ℕ) (fromBlock : ℤ) (startSnapshotId : ℕ) (toBlock : ℤ)
    (endSnapshotId : ℕ) : List SavingsYieldInterval → Prop
  | [] => fromBlock = toBlock ∧ startSnapshotId = endSnapshotId
  | row :: rows => row.chainId = chainId ∧ row.fromBlock = fromBlock ∧
      row.startSnapshotId = startSnapshotId ∧
      EndToEnd chainId row.toBlock row.endSnapshotId toBlock endSnapshotId rows

/-- Together such intervals have the interest of all logs between the two blocks, and the
change of what was pending from the one snapshot to the other. -/
theorem EndToEnd.sums {viem : Viem} {chains : ℕ → ChainLogs}
    {snapshots : SerialTable SavingsChainSnapshot} {chainId : ℕ} {toBlock : ℤ} {endSnapshotId : ℕ}
    {rows : List SavingsYieldInterval} :
    ∀ {fromBlock : ℤ} {startSnapshotId : ℕ},
      (∀ row ∈ rows, row.OnChain viem chains snapshots) →
      EndToEnd chainId fromBlock startSnapshotId toBlock endSnapshotId rows →
        fromBlock ≤ toBlock ∧
        (∃ logs, (chains chainId).Lists chainId vaultRoles (fromBlock + 1) toBlock logs ∧
          accruedInterestOf viem chainId logs = .ok (rows.map (·.accruedInterest)).sum) ∧
        ∀ start finish, snapshots.find? startSnapshotId = some start →
          snapshots.find? endSnapshotId = some finish →
            (rows.map (·.nativeYpo)).sum = (rows.map (·.accruedInterest)).sum
              + finish.susdpPendingYield - start.susdpPendingYield := by
  induction rows with
  | nil =>
      rintro fromBlock startSnapshotId - ⟨rfl, rfl⟩
      refine ⟨le_rfl, ⟨[], ⟨List.nodup_nil, fun log => ?_⟩, rfl⟩,
        fun start finish starts ends => ?_⟩
      · simp only [List.not_mem_nil, false_iff]
        rintro ⟨-, -, lower, upper⟩
        omega
      · rw [starts, Option.some.injEq] at ends
        simp [ends]
  | cons row rows ih =>
      rintro _ _ onChain ⟨rfl, rfl, rfl, rest⟩
      obtain ⟨own, others⟩ := List.forall_mem_cons.mp onChain
      obtain ⟨upper, ⟨logs', lists', read'⟩, ypo'⟩ := ih others rest
      obtain ⟨logs, lists, read⟩ := own.interest
      obtain ⟨first, starts, -, -, -, pendingFirst⟩ := own.starts
      obtain ⟨second, ends, -, -, -, pendingSecond⟩ := own.ends
      have ordered := own.ordered
      refine ⟨by omega, ⟨logs ++ logs', lists.append lists' (by omega) upper, ?_⟩,
        fun start finish found found' => ?_⟩
      · rw [List.map_cons, List.sum_cons]
        exact accruedInterestOf_append read read'
      · rw [starts, Option.some.injEq] at found
        have rest := ypo' second finish ends found'
        have ypo := own.ypo
        rw [List.map_cons, List.map_cons, List.sum_cons, List.sum_cons, ← found]
        omega

/-- **Intervals that lie end to end add up.**  Where stored intervals fill a stored one, from
its start snapshot to its end snapshot, their interests and their yields sum up to those of
the whole; of the lanes and the chunks the same is asked as above. -/
theorem yields_add_up (viem : Viem) (keccak256 : String → String) (chains : ℕ → ChainLogs)
    (watched : Lane → List String) (watches : WatchesVaults watched) (calls : List TimedCall)
    (fetched : ∀ input ∈ calls, input.call.Exact chains watched) :
    let db := analyticsRun viem keccak256 calls .empty
    ∀ whole ∈ db.yields.values, ∀ rows ⊆ db.yields.values,
      EndToEnd whole.chainId whole.fromBlock whole.startSnapshotId whole.toBlock
        whole.endSnapshotId rows →
        whole.accruedInterest = (rows.map (·.accruedInterest)).sum ∧
        whole.nativeYpo = (rows.map (·.nativeYpo)).sum := by
  intro db whole mem rows stored filled
  have onChain : YieldsOnChain viem chains watched db :=
    yieldsOnChain_run keccak256 watches fetched
  have all := onChain.rows whole mem
  obtain ⟨-, ⟨logs, lists, read⟩, ypo⟩ :=
    filled.sums fun row hrow => onChain.rows row (stored hrow)
  obtain ⟨start, starts, -, -, -, pendingAtStart⟩ := all.starts
  obtain ⟨finish, ends, -, -, -, pendingAtEnd⟩ := all.ends
  have interest := all.accruedInterestOf_eq lists
  rw [read, Except.ok.injEq] at interest
  have sum := ypo start finish starts ends
  have own := all.ypo
  exact ⟨interest.symm, by omega⟩

/-! ### One accrual -/

/-- The log of the sample chunk. -/
def tenInterestLog : MinedLog where
  address := "0x0d45b129dc868963025db79a9074ea9c9e32cae4"
  blockNumber := 15
  blockHash := sampleHash 15
  transactionHash := sampleHash 1
  transactionIndex := 0
  logIndex := 0
  topics := ["Accrued(uint256)"]
  data := "0x"
  removed := false

/-- The addresses of the five vaults. -/
def vaultAddresses : List String := susdpDeployments.map (·.address)

theorem watchesVaults_vaultAddresses : WatchesVaults fun _ => vaultAddresses := by
  refine fun lane => watchesRoles_of_decoders fun entry mem _ vault => ?_
  rcases mem_decoders mem with ⟨adapter, known, rfl | rfl⟩ | rfl
  · simp [vaultRoles] at vault
  · obtain ⟨deployments, deployed, rfl⟩ := List.mem_map.mp known
    refine ⟨deployments.2.address, List.mem_map_of_mem ?_, rfl⟩
    exact List.mem_map_of_mem deployed
  · simp [vaultRoles] at vault

theorem exact_tenInterestChunk :
    tenInterestChunk.Exact (fun _ => .single tenInterestLog) fun _ => vaultAddresses := by
  have hashes : sampleHash 15 ≠ "" ∧ sampleHash 1 ≠ "" := by decide +kernel
  have mined : tenInterestLog.toLog.mined = .ok tenInterestLog := by
    simp [tenInterestLog, MinedLog.toLog, Log.mined, hashes]
  exact exact_singleChunk tenInterestChunk rfl mined
    ⟨_, List.mem_cons_self, rfl⟩ (by decide)

/-- The interval with the accrual, and its two halves. -/
def halvesCalls : List TimedCall :=
  [⟨0, .syncParallelAssetRegistry⟩, ⟨0, .persistChunk none tenInterestChunk blankCounters⟩,
    ⟨0, sampleCapture (sampleState 100 100 0) 10⟩,
    ⟨0, sampleCapture (sampleState 110 110 15) 15⟩,
    ⟨0, sampleCapture (sampleState 110 110 15) 20⟩] ++
  [(10, 15), (15, 20), (10, 20)].map fun (fromBlock, toBlock) =>
    ⟨0, .calculateSavingsYieldForRange
      ⟨ethereumAdapter, tenInterestChunk.scope, fromBlock, toBlock, none⟩⟩

theorem exact_halvesCalls : ∀ input ∈ halvesCalls,
    input.call.Exact (fun _ => .single tenInterestLog) fun _ => vaultAddresses := by
  intro input called
  simp only [halvesCalls, List.map_cons, List.map_nil, List.cons_append, List.nil_append,
    List.mem_cons, List.not_mem_nil, or_false] at called
  rcases called with rfl | rfl | rfl | rfl | rfl | rfl | rfl | rfl
  · trivial
  · exact exact_tenInterestChunk
  all_goals trivial

/-- What the calls store. -/
theorem values_halvesCalls :
    (analyticsRun tenInterestViem id halvesCalls .empty).yields.values.map
        (fun row => (row.chainId, row.fromBlock, row.toBlock, row.startSnapshotId,
          row.endSnapshotId, row.nativeYpo))
      = [(1, 10, 15, 1, 2, 10), (1, 15, 20, 2, 3, 0), (1, 10, 20, 1, 3, 10)] := by
  decide +kernel

theorem yields_on_chain_halves :
    let db := analyticsRun tenInterestViem id halvesCalls .empty
    db.yields.values.map (·.nativeYpo) = [10, 0, 10] ∧ ∀ row ∈ db.yields.values,
      row.OnChain tenInterestViem (fun _ => .single tenInterestLog) db.savingsSnapshots := by
  refine ⟨?_, yields_on_chain tenInterestViem id (fun _ => .single tenInterestLog)
    (fun _ => vaultAddresses) watchesVaults_vaultAddresses halvesCalls exact_halvesCalls⟩
  have stored := congrArg (List.map fun row => row.2.2.2.2.2) values_halvesCalls
  rw [List.map_map] at stored
  exact stored

theorem yields_add_up_halves :
    ∃ first second whole,
      (analyticsRun tenInterestViem id halvesCalls .empty).yields.values = [first, second, whole] ∧
      whole.nativeYpo = [first.nativeYpo, second.nativeYpo].sum := by
  have addUp := yields_add_up tenInterestViem id (fun _ => .single tenInterestLog)
    (fun _ => vaultAddresses) watchesVaults_vaultAddresses halvesCalls exact_halvesCalls
  have stored := values_halvesCalls
  generalize analyticsRun tenInterestViem id halvesCalls .empty = db at addUp stored ⊢
  have three := congrArg List.length stored
  rw [List.length_map] at three
  obtain ⟨first, second, whole, values⟩ := List.length_eq_three.mp three
  dsimp only at addUp
  rw [values] at stored addUp ⊢
  simp only [List.map_cons, List.map_nil, List.cons.injEq, Prod.mk.injEq, and_true] at stored
  exact ⟨first, second, whole, rfl, (addUp whole (by simp) [first, second] (by simp)
    (by simp [EndToEnd, stored])).2⟩

end UsdpIndexer
