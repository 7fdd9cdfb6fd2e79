import UsdpIndexer.Analytics.AnalyticsSystem

/-!
# Tracing a global supply

A global supply is the sum of what a cycle has just read; the rows it is linked to are the
rows that are stored for the blocks in question.  A block whose supply was stored before
keeps the old row, whatever has been read this time.  So a supply can be traced to its rows
exactly if the cycle reads again what is stored (`SupplyCycle.Agrees`), and all supplies of
a run can if every cycle does (`suppliesTraced_iff`).
-/

namespace UsdpIndexer

open Accounting SerialTable FailingFold

/-! ## Supplies and their links -/

/-- The rows that the included links of a supply point to. -/
def AnalyticsDatabase.includedSupplyRows (db : AnalyticsDatabase) (globalSnapshotId : ℕ) :
    List (Option AssetChainSnapshot) :=
  (db.globalSupplyComponents.filter fun link =>
    link.globalSnapshotId = globalSnapshotId ∧ link.included).map fun link =>
      db.assetSnapshots.find? link.assetSnapshotId

/-- A supply is the sum over the rows it is linked to, all of them valid. -/
def AnalyticsDatabase.SupplyTraced (db : AnalyticsDatabase) (globalSnapshotId : ℕ)
    (row : GlobalUsdpSupplySnapshot) : Prop :=
  ∃ rows : List AssetChainSnapshot, db.includedSupplyRows globalSnapshotId = rows.map some ∧
    row.candidateTotalSupply = (rows.map fun stored => (stored.totalSupply : ℤ)).sum ∧
    ∀ stored ∈ rows, stored.snapshotStatus ≠ .invalid

/-- Every sum is traced. -/
def AnalyticsDatabase.SuppliesTraced (db : AnalyticsDatabase) : Prop :=
  ∀ ⦃id : ℕ⦄ ⦃row : GlobalUsdpSupplySnapshot⦄,
    db.globalSupply.find? id = some row → db.SupplyTraced id row

/-- The foreign keys of the links. -/
structure AnalyticsDatabase.SupplyReferences (db : AnalyticsDatabase) : Prop where
  snapshots : ∀ link ∈ db.globalSupplyComponents, ∃ row,
    db.assetSnapshots.find? link.assetSnapshotId = some row
  sums : ∀ link ∈ db.globalSupplyComponents, ∃ row,
    db.globalSupply.find? link.globalSnapshotId = some row

/-! ## What a cycle reads again -/

namespace SupplyCycle

variable (keccak256 : String → String) (cycle : SupplyCycle)

/-- A component that enters the sum: it is sound, recent and aligned. -/
def counts (asOf : ℤ) (component : UsdpSupplyComponent) : Bool :=
  component.metadataVerified &&
    !component.isStale asOf cycle.maximumAgeSeconds cycle.alignmentMaximumSkewSeconds

/-- What one endpoint answers, where that can be stored. -/
def endpointReading (adapter : UsdpSupplyAdapter) (db : AnalyticsDatabase)
    (client : SupplyClient) : Option UsdpSupplyReading :=
  match readUsdpSupply keccak256 (cycle.options adapter db.clock client) db.clock with
  | .error _ => none
  | .ok reading =>
      match storeUsdpSupply adapter (cycle.rpcSource adapter.deployment.chainId) reading db with
      | .error _ => none
      | .ok _ => some reading

/-- What is read of a chain: the answer of the first such endpoint. -/
def reading (adapter : UsdpSupplyAdapter) (db : AnalyticsDatabase) : Option UsdpSupplyReading :=
  (cycle.clients adapter.deployment.chainId).findSome?
    (cycle.endpointReading keccak256 adapter db)

/-- A reading that enters the sum, with the row that is stored for its block already. -/
def rereadChain (adapter : UsdpSupplyAdapter) (db : AnalyticsDatabase) :
    Option (UsdpSupplyReading × AssetChainSnapshot) :=
  (cycle.reading keccak256 adapter db).bind fun reading =>
    if cycle.counts db.clock
        (reading.component adapter (cycle.rpcSource adapter.deployment.chainId) 0) then
      (db.assetSnapshots.idOf AssetChainSnapshot.key (reading.assetSnapshot adapter).key).bind
        fun id => (db.assetSnapshots.find? id).map (reading, ·)
    else none

/-- What is read again in the course of a cycle. -/
def reread : List UsdpSupplyAdapter → AnalyticsDatabase →
    List (UsdpSupplyReading × AssetChainSnapshot)
  | [], _ => []
  | adapter :: adapters, db =>
      match cycle.attempt keccak256 adapter db with
      | .ok (_, db') => (cycle.rereadChain keccak256 adapter db).toList ++ reread adapters db'
      | .error _ => reread adapters db

/-- What is read again adds up to what is stored, and no row that is stored is invalid. -/
structure Agrees (db : AnalyticsDatabase) : Prop where
  sums : ((cycle.reread keccak256 usdpSupplyAdapters db).map fun pair =>
      (pair.1.totalSupply : ℤ)).sum
    = ((cycle.reread keccak256 usdpSupplyAdapters db).map fun pair =>
      (pair.2.totalSupply : ℤ)).sum
  valid : ∀ pair ∈ cycle.reread keccak256 usdpSupplyAdapters db, pair.2.snapshotStatus ≠ .invalid

end SupplyCycle

/-! ## One chain -/

namespace SupplyCycle

variable {keccak256 : String → String} {cycle : SupplyCycle} {adapter : UsdpSupplyAdapter}
  {db db' : AnalyticsDatabase} {component : UsdpSupplyComponent}

/-- An endpoint answers for a chain exactly if its capture succeeds. -/
theorem endpointReading_of_capture (client : SupplyClient) :
    match captureUsdpSupplyComponent keccak256 (cycle.options adapter db.clock client) db with
    | .error _ => cycle.endpointReading keccak256 adapter db client = none
    | .ok answer => ∃ reading, cycle.endpointReading keccak256 adapter db client = some reading ∧
        storeUsdpSupply adapter (cycle.rpcSource adapter.deployment.chainId) reading db
          = .ok answer := by
  unfold endpointReading captureUsdpSupplyComponent
  cases readUsdpSupply keccak256 (cycle.options adapter db.clock client) db.clock with
  | error error => rfl
  | ok reading =>
      show match storeUsdpSupply adapter (cycle.rpcSource adapter.deployment.chainId) reading
          db with
        | .error _ => _
        | .ok answer => _
      cases stored : storeUsdpSupply adapter (cycle.rpcSource adapter.deployment.chainId) reading
          db with
      | error error => simp only [stored]
      | ok answer => exact ⟨reading, by simp only [stored], stored⟩

/-- An attempt that succeeds has stored the reading of the chain. -/
theorem reading_of_attempt (result : cycle.attempt keccak256 adapter db = .ok (component, db')) :
    ∃ reading, cycle.reading keccak256 adapter db = some reading ∧
      storeUsdpSupply adapter (cycle.rpcSource adapter.deployment.chainId) reading db
        = .ok (component, db') := by
  have answers := runWithSupplyRpcFailover_eq_ok.mp result
  unfold reading
  -- both searches stop at the same endpoint
  generalize cycle.clients adapter.deployment.chainId = clients at answers ⊢
  induction clients with
  | nil => cases answers
  | cons client clients ih =>
      have endpoint := @endpointReading_of_capture keccak256 cycle adapter db client
      rw [List.findSome?_cons] at answers ⊢
      split at endpoint
      · rename_i error failed
        rw [failed] at answers
        rw [endpoint]
        exact ih answers
      · rename_i answer succeeded
        rw [succeeded] at answers
        obtain rfl := Option.some.inj answers
        obtain ⟨reading, read, stored⟩ := endpoint
        rw [read]
        exact ⟨reading, rfl, stored⟩

/-- **What one chain contributes**: a row that holds what was read, or the row of the
supply that was read again. -/
theorem attempt_row (result : cycle.attempt keccak256 adapter db = .ok (component, db')) :
    ∃ row, db'.assetSnapshots.find? component.assetSnapshotId = some row ∧
      (cycle.counts db.clock component = false →
        cycle.rereadChain keccak256 adapter db = none) ∧
      (cycle.counts db.clock component = true →
        (cycle.rereadChain keccak256 adapter db = none ∧
          (row.totalSupply : ℤ) = component.totalSupply ∧ row.snapshotStatus ≠ .invalid) ∨
        ∃ reading, cycle.rereadChain keccak256 adapter db = some (reading, row) ∧
          (reading.totalSupply : ℤ) = component.totalSupply) := by
  obtain ⟨reading, read, stored⟩ := reading_of_attempt result
  obtain ⟨assetSnapshotId, supplyEvidence, rfl, rfl, returned⟩ := storeUsdpSupply_eq_ok stored
  have again : cycle.rereadChain keccak256 adapter db
      = if cycle.counts db.clock (reading.component adapter
          (cycle.rpcSource adapter.deployment.chainId) assetSnapshotId) then
        (db.assetSnapshots.idOf AssetChainSnapshot.key (reading.assetSnapshot adapter).key).bind
          fun id => (db.assetSnapshots.find? id).map (reading, ·)
      else none := by
    rw [rereadChain, read, Option.bind_some]
    rfl
  rw [again]
  rcases insertOrSelect_spec AssetChainSnapshot.key db.assetSnapshots
      (reading.assetSnapshot adapter) with
    ⟨absent, inserted⟩ | ⟨id, row, conflict, found, -, reused⟩
  · -- the row is new and holds what was read
    rw [inserted] at returned ⊢
    obtain rfl := Option.some.inj returned
    refine ⟨reading.assetSnapshot adapter, find?_insert_self _ _, fun out => if_neg (by simp [out]),
      fun sound => .inl ⟨?_, rfl, ?_⟩⟩
    · rw [absent]
      split <;> rfl
    · have verified : reading.metadataVerified = true := (Bool.and_eq_true_iff.mp sound).1
      show reading.snapshotStatus ≠ .invalid
      rw [UsdpSupplyReading.snapshotStatus, if_pos verified]
      decide
  · -- the row was there, and the reading counts as one that is repeated
    rw [reused] at returned ⊢
    obtain rfl := Option.some.inj returned
    refine ⟨row, found, fun out => if_neg (by simp [out]), fun sound => .inr ⟨reading, ?_, rfl⟩⟩
    rw [if_pos sound, conflict, Option.bind_some, found, Option.map_some]

/-! ## One cycle -/

variable (keccak256 cycle)

/-- The rows of the components that enter a sum: what their total differs by from the sum,
and whether they are valid, is decided by what is read again. -/
theorem collect_rows (adapters : List UsdpSupplyAdapter) : ∀ db : AnalyticsDatabase,
    let collected := cycle.collect keccak256 adapters db
    let counted := collected.1.filter (cycle.counts db.clock)
    let repeated := cycle.reread keccak256 adapters db
    ∃ rows : List AssetChainSnapshot,
      (counted.map fun component =>
        collected.2.2.assetSnapshots.find? component.assetSnapshotId) = rows.map some ∧
      (rows.map fun row => (row.totalSupply : ℤ)).sum
          + (repeated.map fun pair => (pair.1.totalSupply : ℤ)).sum
        = (counted.map (·.totalSupply)).sum
          + (repeated.map fun pair => (pair.2.totalSupply : ℤ)).sum ∧
      ((∀ row ∈ rows, row.snapshotStatus ≠ .invalid)
        ↔ ∀ pair ∈ repeated, pair.2.snapshotStatus ≠ .invalid) := by
  induction adapters with
  | nil => exact fun _ => ⟨[], rfl, rfl, by simp [reread]⟩
  | cons adapter adapters ih =>
      intro db
      cases outcome : cycle.attempt keccak256 adapter db with
      | error error =>
          rw [collect, reread, outcome]
          exact ih db
      | ok captured =>
          obtain ⟨component, db'⟩ := captured
          obtain ⟨row, found, out, counted⟩ := attempt_row outcome
          have clock : db'.clock = db.clock := by
            obtain ⟨client, -, stored⟩ := attempt_eq_ok outcome
            obtain ⟨_, _, _, rfl, -, -⟩ := captureUsdpSupplyComponent_written stored
            rfl
          obtain ⟨rows, stored, sums, valid⟩ := ih db'
          -- the captures that follow leave the row where it is
          have stays : (cycle.collect keccak256 adapters db').2.2.assetSnapshots.find?
              component.assetSnapshotId = some row := by
            obtain ⟨_, _, _, same, -, grows⟩ := cycle.collect_written keccak256 adapters db'
            rw [same]
            exact grows found
          rw [clock] at stored sums
          simp only [collect, reread, outcome]
          cases enters : cycle.counts db.clock component with
          | false =>
              rw [List.filter_cons_of_neg (by simp [enters]), out enters]
              exact ⟨rows, stored, sums, valid⟩
          | true =>
              rw [List.filter_cons_of_pos enters]
              refine ⟨row :: rows, ?_, ?_, ?_⟩
              · rw [List.map_cons, stays, stored, List.map_cons]
              · rcases counted enters with ⟨fresh, same, -⟩ | ⟨reading, again, same⟩
                · rw [fresh]
                  simp only [Option.toList_none, List.nil_append, List.map_cons, List.sum_cons]
                  omega
                · rw [again]
                  simp only [Option.toList_some, List.singleton_append, List.map_cons,
                    List.sum_cons]
                  omega
              · rw [List.forall_mem_cons, valid]
                rcases counted enters with ⟨fresh, -, sound⟩ | ⟨reading, again, -⟩
                · rw [fresh]
                  simp [sound]
                · rw [again]
                  simp

/-- The components of a cycle have the chain ids of their adapters. -/
theorem collect_chainIds (adapters : List UsdpSupplyAdapter) : ∀ db : AnalyticsDatabase,
    ((cycle.collect keccak256 adapters db).1.map (·.chainId)).Sublist
      (adapters.map (·.deployment.chainId)) := by
  induction adapters with
  | nil => exact fun _ => .slnil
  | cons adapter adapters ih =>
      intro db
      rw [collect]
      split
      · rename_i component db' success
        obtain ⟨reading, -, stored⟩ := reading_of_attempt success
        obtain ⟨_, _, rfl, -, -⟩ := storeUsdpSupply_eq_ok stored
        exact (ih db').cons_cons _
      · exact (ih db).cons _

/-- The components of a cycle are a report on the chains that it expects. -/
theorem collect_reported (db : AnalyticsDatabase) :
    Reported (·.chainId) supplyChainIds (cycle.collect keccak256 usdpSupplyAdapters db).1 where
  nonempty := by decide
  expectedNodup := by decide
  idsNodup := (collect_chainIds keccak256 cycle usdpSupplyAdapters db).nodup (by decide)
  subset := fun _ mem => (collect_chainIds keccak256 cycle usdpSupplyAdapters db).subset
    (List.mem_map_of_mem mem)

end SupplyCycle

/-! ## The rows of a database -/

/-- What the trace of a supply depends on. -/
theorem supplyTraced_congr {db db' : AnalyticsDatabase} (references : db.SupplyReferences)
    (grows : db.assetSnapshots.Extends db'.assetSnapshots) {globalSnapshotId : ℕ}
    {row : GlobalUsdpSupplySnapshot} {links : List GlobalUsdpSupplySnapshotComponent}
    (written : db'.globalSupplyComponents = db.globalSupplyComponents ++ links)
    (others : ∀ link ∈ links, link.globalSnapshotId ≠ globalSnapshotId) :
    db'.SupplyTraced globalSnapshotId row ↔ db.SupplyTraced globalSnapshotId row := by
  have same : db'.includedSupplyRows globalSnapshotId = db.includedSupplyRows globalSnapshotId := by
    have dropped : links.filter (fun link =>
        link.globalSnapshotId = globalSnapshotId ∧ link.included) = [] := by
      rw [List.filter_eq_nil_iff]
      intro link mem
      simp [others link mem]
    unfold AnalyticsDatabase.includedSupplyRows
    rw [written, List.filter_append, dropped, List.append_nil]
    apply List.map_congr_left
    intro link mem
    obtain ⟨snapshot, found⟩ := references.snapshots link (List.mem_filter.mp mem).1
    rw [found, grows found]
  unfold AnalyticsDatabase.SupplyTraced
  rw [same]

theorem SupplyReferences.empty : AnalyticsDatabase.empty.SupplyReferences where
  snapshots := fun _ mem => absurd mem List.not_mem_nil
  sums := fun _ mem => absurd mem List.not_mem_nil

theorem AnalyticsDatabase.SupplyReferences.effect {db db' : AnalyticsDatabase}
    {call : AnalyticsCall} (effect : Effect db call db') (references : db.SupplyReferences) :
    db'.SupplyReferences := by
  cases effect with
  | supplies _ blocks assetDeployments assetSnapshots supplyEvidence kept grows =>
      refine ⟨fun link mem => ?_, references.sums⟩
      obtain ⟨row, found⟩ := references.snapshots link mem
      exact ⟨row, grows found⟩
  | savingsSnapshot options blocks assetSnapshots row us ss kept grows =>
      refine ⟨fun link mem => ?_, references.sums⟩
      obtain ⟨row, found⟩ := references.snapshots link mem
      exact ⟨row, grows found⟩
  | globalSupply cycle blocks assetDeployments assetSnapshots supplyEvidence row links kept grows
      linked =>
      constructor
      · intro link mem
        rcases List.mem_append.mp mem with old | new
        · obtain ⟨row, found⟩ := references.snapshots link old
          exact ⟨row, grows found⟩
        · exact (linked link new).2
      · intro link mem
        rcases List.mem_append.mp mem with old | new
        · obtain ⟨row, found⟩ := references.sums link old
          exact ⟨row, find?_insert_of_find? found _⟩
        · rw [(linked link new).1]
          exact ⟨_, find?_insert_self _ _⟩
  | _ => exact ⟨references.snapshots, references.sums⟩

/-- Calls that are not a cycle leave the supplies as they are. -/
theorem suppliesTraced_of_effect {db db' : AnalyticsDatabase} {call : AnalyticsCall}
    (effect : Effect db call db') (references : db.SupplyReferences)
    (other : ∀ cycle, call ≠ .captureGlobalUsdpSupply cycle) :
    db'.SuppliesTraced ↔ db.SuppliesTraced := by
  have grown {assetSnapshots : SerialTable AssetChainSnapshot} {db' : AnalyticsDatabase}
      (grows : db.assetSnapshots.Extends assetSnapshots)
      (snapshots : db'.assetSnapshots = assetSnapshots)
      (sums : db'.globalSupply = db.globalSupply)
      (links : db'.globalSupplyComponents = db.globalSupplyComponents) :
      db'.SuppliesTraced ↔ db.SuppliesTraced := by
    unfold AnalyticsDatabase.SuppliesTraced
    rw [sums]
    refine forall_congr' fun id => forall_congr' fun row => imp_congr_right fun _ => ?_
    exact supplyTraced_congr references (snapshots ▸ grows) (links.trans (List.append_nil _).symm)
      fun _ mem => absurd mem List.not_mem_nil
  cases effect with
  | supplies _ blocks assetDeployments assetSnapshots supplyEvidence kept grows =>
      exact grown grows rfl rfl rfl
  | savingsSnapshot options blocks assetSnapshots row us ss kept grows =>
      exact grown grows rfl rfl rfl
  | globalSupply cycle => exact absurd rfl (other cycle)
  | _ => exact Iff.rfl

/-- A new supply is traced exactly if the total of its rows is the sum and they are valid. -/
theorem supplyTraced_iff_of_rows {db : AnalyticsDatabase} {globalSnapshotId : ℕ}
    {row : GlobalUsdpSupplySnapshot} {rows : List AssetChainSnapshot}
    (linked : db.includedSupplyRows globalSnapshotId = rows.map some) :
    db.SupplyTraced globalSnapshotId row
      ↔ row.candidateTotalSupply = (rows.map fun stored => (stored.totalSupply : ℤ)).sum ∧
        ∀ stored ∈ rows, stored.snapshotStatus ≠ .invalid := by
  constructor
  · rintro ⟨rows', same, total, valid⟩
    rw [linked] at same
    obtain rfl := List.map_injective_iff.mpr (Option.some_injective _) same
    exact ⟨total, valid⟩
  · rintro ⟨total, valid⟩
    exact ⟨rows, linked, total, valid⟩

/-- The links of a sum that are included are those of the components that enter it. -/
theorem filter_links {components : List UsdpSupplyComponent} {keep : UsdpSupplyComponent → Bool}
    (reported : Reported (·.chainId) supplyChainIds components) (aggregate : UsdpSupplyAggregate)
    (included : ∀ chain, chain ∈ aggregate.includedChainIds
      ↔ chain ∈ (components.filter keep).map (·.chainId)) (globalSnapshotId : ℕ) :
    (components.map (aggregate.link globalSnapshotId)).filter (fun link =>
        link.globalSnapshotId = globalSnapshotId ∧ link.included)
      = (components.filter keep).map (aggregate.link globalSnapshotId) := by
  rw [List.filter_map]
  congr 1
  apply List.filter_congr
  intro component mem
  have kept : component.chainId ∈ (components.filter keep).map (·.chainId) ↔ keep component :=
    reported.mem_ids_filter_iff mem
  simp [UsdpSupplyAggregate.link, included, kept]

/-- **The supply of a cycle is traced exactly if the cycle agrees with what is stored.** -/
theorem suppliesTraced_captureGlobalUsdpSupply (keccak256 : String → String)
    (cycle : SupplyCycle) {db : AnalyticsDatabase} (references : db.SupplyReferences) :
    (captureGlobalUsdpSupply keccak256 cycle db).2.SuppliesTraced
      ↔ db.SuppliesTraced ∧ cycle.Agrees keccak256 (syncParallelAssetRegistry db) := by
  have reported := cycle.collect_reported keccak256 (syncParallelAssetRegistry db)
  obtain ⟨rows, stored, sums, valid⟩ :=
    cycle.collect_rows keccak256 usdpSupplyAdapters (syncParallelAssetRegistry db)
  have written := cycle.collect_written keccak256 usdpSupplyAdapters (syncParallelAssetRegistry db)
  unfold captureGlobalUsdpSupply persistGlobalSnapshot
  generalize cycle.collect keccak256 usdpSupplyAdapters (syncParallelAssetRegistry db) = collected
    at reported stored written sums valid ⊢
  obtain ⟨components, failed, db₁⟩ := collected
  obtain ⟨blocks, assetSnapshots, supplyEvidence, rfl, -, grows⟩ := written
  simp only at reported stored sums valid ⊢
  set aggregate := aggregateUsdpSupplyComponents components supplyChainIds failed
    (syncParallelAssetRegistry db).clock cycle.maximumAgeSeconds
    cycle.alignmentMaximumSkewSeconds with haggregate
  have included : aggregate.included
      = components.filter (cycle.counts (syncParallelAssetRegistry db).clock) :=
    aggregateUsdpSupplyComponents_included reported
  set row := aggregate.globalSnapshot cycle.alignmentMaximumSkewSeconds
    (syncParallelAssetRegistry db).clock
  set db' : AnalyticsDatabase := _
  show db'.SuppliesTraced ↔ _
  have total : row.candidateTotalSupply = ((components.filter
      (cycle.counts (syncParallelAssetRegistry db).clock)).map (·.totalSupply)).sum := by
    rw [← included]
    rfl
  -- the rows that the new supply is linked to
  have linked : db'.includedSupplyRows db.globalSupply.next = rows.map some := by
    have old : db.globalSupplyComponents.filter (fun link =>
        link.globalSnapshotId = db.globalSupply.next ∧ link.included) = [] := by
      rw [List.filter_eq_nil_iff]
      intro link mem
      obtain ⟨sum, found⟩ := references.sums link mem
      simp [Nat.ne_of_lt (lt_next_of_find? found)]
    have new := filter_links reported aggregate
      (fun chain => by rw [← included]; exact mem_ascending) db.globalSupply.next
    show ((db.globalSupplyComponents ++ components.map (aggregate.link db.globalSupply.next)).filter
      _).map _ = _
    rw [List.filter_append, old, List.nil_append, new, List.map_map]
    exact stored
  -- the other supplies
  have others {id : ℕ} {row : GlobalUsdpSupplySnapshot}
      (found : db.globalSupply.find? id = some row) :
      db'.SupplyTraced id row ↔ db.SupplyTraced id row := by
    refine @supplyTraced_congr db db' references grows id row _ rfl ?_
    intro link mem same
    obtain ⟨component, -, rfl⟩ := List.mem_map.mp mem
    exact Nat.ne_of_lt (lt_next_of_find? found) same.symm
  have agrees : db'.SupplyTraced db.globalSupply.next row
      ↔ cycle.Agrees keccak256 (syncParallelAssetRegistry db) := by
    rw [supplyTraced_iff_of_rows linked, total, valid]
    constructor
    · rintro ⟨same, sound⟩
      exact ⟨by omega, sound⟩
    · rintro ⟨same, sound⟩
      exact ⟨by omega, sound⟩
  rw [← agrees]
  refine forall_find?_insert_iff.trans (and_congr_left fun _ => ?_)
  exact forall_congr' fun id => forall_congr' fun row => imp_congr_right others

/-- The supply cycles of a schedule agree with what is stored when they run. -/
def CycleAgrees (keccak256 : String → String) (input : TimedCall) (db : AnalyticsDatabase) : Prop :=
  ∀ cycle, input.call = .captureGlobalUsdpSupply cycle →
    cycle.Agrees keccak256 (syncParallelAssetRegistry (db.wait input.wait))

/-- **Every supply can be traced to its rows exactly if every cycle agrees with the rows
that are stored before it.** -/
theorem suppliesTraced_iff (viem : Viem) (keccak256 : String → String) (calls : List TimedCall) :
    (analyticsRun viem keccak256 calls .empty).SuppliesTraced
      ↔ Machine.Along (analyticsStep viem keccak256) (CycleAgrees keccak256) calls .empty := by
  have start : AnalyticsDatabase.empty.SuppliesTraced := fun id row found => by cases found
  have decided := @Machine.run_iff_along _ _ _ (analyticsStep viem keccak256)
    AnalyticsDatabase.SupplyReferences AnalyticsDatabase.SuppliesTraced (CycleAgrees keccak256)
    ?_ ?_ calls _ SupplyReferences.empty
  · rw [analyticsRun, decided, and_iff_right start]
  · intro input db references
    rcases analyticsStep_effect input db with effect | idle
    · exact .effect effect ⟨references.snapshots, references.sums⟩
    · rw [idle]
      exact ⟨references.snapshots, references.sums⟩
  · intro input db references
    have waited : (db.wait input.wait).SupplyReferences :=
      ⟨references.snapshots, references.sums⟩
    by_cases isCycle : ∃ cycle, input.call = .captureGlobalUsdpSupply cycle
    · obtain ⟨cycle, isCycle⟩ := isCycle
      have step : (analyticsStep viem keccak256 input db).1
          = (captureGlobalUsdpSupply keccak256 cycle (db.wait input.wait)).2 := by
        rw [analyticsStep, isCycle]
        rfl
      rw [step, suppliesTraced_captureGlobalUsdpSupply keccak256 cycle waited]
      refine and_congr Iff.rfl ⟨fun agrees other same => ?_, fun all => all cycle isCycle⟩
      obtain rfl := AnalyticsCall.captureGlobalUsdpSupply.inj (isCycle.symm.trans same)
      exact agrees
    · -- another call leaves the supplies alone, and the condition asks nothing of it
      have other : ∀ cycle, input.call ≠ .captureGlobalUsdpSupply cycle := fun cycle same =>
        isCycle ⟨cycle, same⟩
      have free : CycleAgrees keccak256 input db := fun cycle same => absurd same (other cycle)
      rw [and_iff_left free]
      show _ ↔ (db.wait input.wait).SuppliesTraced
      rcases analyticsStep_effect input db with effect | idle
      · exact suppliesTraced_of_effect effect waited other
      · rw [idle]

/-- An endpoint of a sound deployment. -/
def sampleSupplyClient (totalSupply : ℕ) : SupplyClient where
  getFinalizedBlock := .ok (sampleBlock 100)
  getBlockNumber := .ok 100
  getBlock := fun number => .ok (sampleBlock number)
  getBytecode := fun _ => .ok (some "0x60")
  readName := fun _ => .ok "USDp"
  readSymbol := fun _ => .ok "USDp"
  readDecimals := fun _ => .ok 18
  readTotalSupply := fun _ => .ok totalSupply

/-- A cycle that one chain answers. -/
def sampleSupplyCycle (totalSupply : ℕ) : SupplyCycle where
  finalityLag := 0
  maximumAgeSeconds := 3600
  alignmentMaximumSkewSeconds := 1800
  rpcSource := fun _ => .publicDefault
  clients := fun chainId => if chainId = 1 then [sampleSupplyClient totalSupply] else []

/-- Two cycles that find the same block finalized and read different supplies at it. -/
def twoSupplies : List TimedCall :=
  [⟨100000, .captureGlobalUsdpSupply (sampleSupplyCycle 100)⟩,
    ⟨60000, .captureGlobalUsdpSupply (sampleSupplyCycle 200)⟩]

/-- The second supply is 200, and the row that it is linked to says 100. -/
theorem suppliesTraced_fails_twoSupplies :
    ¬ (analyticsRun ⟨fun _ _ _ => none, id⟩ (fun _ => sampleHash 0) twoSupplies
      .empty).SuppliesTraced := by
  have figures : (fun db : AnalyticsDatabase =>
      ((db.globalSupply.find? 2).map (·.candidateTotalSupply),
        (db.includedSupplyRows 2).map (·.map (·.totalSupply))))
      (analyticsRun ⟨fun _ _ _ => none, id⟩ (fun _ => sampleHash 0) twoSupplies .empty)
        = (some 200, [some 100]) := by
    decide +kernel
  generalize analyticsRun ⟨fun _ _ _ => none, id⟩ (fun _ => sampleHash 0) twoSupplies .empty = db
    at figures ⊢
  obtain ⟨amount, links⟩ := Prod.mk.inj figures
  intro traced
  obtain ⟨row, found, total⟩ := Option.map_eq_some_iff.mp amount
  obtain ⟨rows, linked, sum, -⟩ := traced found
  rw [linked, List.map_map] at links
  obtain ⟨first, others, rfl, held, rest⟩ := List.map_eq_cons_iff.mp links
  obtain rfl := List.map_eq_nil_iff.mp rest
  rw [total, List.map_singleton, List.sum_singleton, Nat.cast_inj.mpr (Option.some.inj held)] at sum
  exact absurd sum (by decide)

end UsdpIndexer
