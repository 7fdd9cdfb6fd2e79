import UsdpIndexer.Analytics.ChainYield
import UsdpIndexer.Analytics.SupplyTrace

/-!
# The global supply that is shown

`analytics/usdp-supply-queries.ts`.  The reader takes the latest global supply and joins each of its
links with the snapshot it points to and with the evidence of that snapshot.  An inner join may lose
rows; here it loses none, since a component is linked after its evidence has been stored, and
evidence is replaced but not taken away (`AnalyticsDatabase.SupplyLinked`).  So a supply is shown as
complete if every chain is there, and what is shown adds up exactly if the supply can be traced to
its rows (`supply_shown_adds_up`).
-/

namespace UsdpIndexer

open Accounting SerialTable SelectFirst StableOrder FailingFold

/-! ## The reader -/

/-- A link of a global supply, with its snapshot and the evidence of it. -/
structure SupplyComponentJoin where
  link : GlobalUsdpSupplySnapshotComponent
  snapshot : AssetChainSnapshot
  evidence : UsdpSupplySnapshotEvidence
deriving DecidableEq, Repr

namespace SupplyComponentJoin

variable (component : SupplyComponentJoin)

/-- The chain of a component, if it is still in the registry. -/
def adapter? : Option UsdpSupplyAdapter :=
  usdpSupplyAdapters.find? (·.deployment.chainId = component.link.chainId)

/-- The short name of the chain. -/
def chainSlug : String := (component.adapter?.map (·.deployment.chainSlug)).getD "unknown"

/-- The name of the chain. -/
def chainName : String := (component.adapter?.map (·.deployment.chainName)).getD "Unknown"

end SupplyComponentJoin

/-- `sumIncludedSupplyOutsideChains` -/
def sumIncludedSupplyOutsideChains (components : List SupplyComponentJoin)
    (savingsChainIds : List ℕ) : ℤ :=
  ((components.filter fun component =>
    component.link.included && !decide (component.link.chainId ∈ savingsChainIds)).map
      fun component => (component.snapshot.totalSupply : ℤ)).sum

/-- The rest of what is included, on the chains of the savings. -/
def sumIncludedSupplyOnChains (components : List SupplyComponentJoin)
    (savingsChainIds : List ℕ) : ℤ :=
  ((components.filter fun component =>
    component.link.included && decide (component.link.chainId ∈ savingsChainIds)).map
      fun component => (component.snapshot.totalSupply : ℤ)).sum

/-- What `readLatestGlobalUsdpSupply` returns where there is a snapshot. -/
structure GlobalUsdpSupplyReading where
  status : ReadStatus
  globalSnapshotId : ℕ
  snapshot : GlobalUsdpSupplySnapshot
  checkedAt : ℤ
  maximumAllowedAgeSeconds : ℤ
  currentMaximumAgeSeconds : Option ℤ
  stale : Bool
  expectedChainIds : List ℕ
  components : List SupplyComponentJoin
deriving DecidableEq, Repr

namespace AnalyticsDatabase

variable (db : AnalyticsDatabase)

/-- The latest global supply, by the time it is about and then by its creation. -/
def latestGlobalSupply : Option (ℕ × GlobalUsdpSupplySnapshot) :=
  first (fun a b => lexCompare (·.2.asOf) (·.2.createdAt) b a) db.globalSupply.rows

/-- A component with its snapshot and its evidence. -/
def joinEvidence (link : GlobalUsdpSupplySnapshotComponent) : Option SupplyComponentJoin := do
  let snapshot ← db.assetSnapshots.find? link.assetSnapshotId
  let evidence ← KeyedTable.lookup UsdpSupplySnapshotEvidence.assetSnapshotId db.supplyEvidence
    link.assetSnapshotId
  return ⟨link, snapshot, evidence⟩

/-- The components of a sum. -/
def supplyLinks (globalSnapshotId : ℕ) : List GlobalUsdpSupplySnapshotComponent :=
  db.globalSupplyComponents.filter (·.globalSnapshotId = globalSnapshotId)

/-- The components of a global supply, by chain. -/
def linkedSupply (globalSnapshotId : ℕ) : List SupplyComponentJoin :=
  sortBy (fun a b : SupplyComponentJoin => (a.link.chainId : ℤ) - b.link.chainId)
    ((db.supplyLinks globalSnapshotId).filterMap db.joinEvidence)

end AnalyticsDatabase

/-- `readLatestGlobalUsdpSupply`: `none` where there is no snapshot. -/
def readLatestGlobalUsdpSupply (now maximumAgeSeconds : ℤ) (db : AnalyticsDatabase) :
    Option GlobalUsdpSupplyReading :=
  db.latestGlobalSupply.map fun latest =>
    let currentMaximumAgeSeconds := latest.2.oldestComponentTimestamp.map (ageSeconds now)
    let stale := currentMaximumAgeSeconds.all (· > maximumAgeSeconds)
    { status := readStatus stale latest.2.coverageStatus
      globalSnapshotId := latest.1
      snapshot := latest.2
      checkedAt := now
      maximumAllowedAgeSeconds := maximumAgeSeconds
      currentMaximumAgeSeconds := currentMaximumAgeSeconds
      stale := stale
      expectedChainIds := supplyChainIds
      components := db.linkedSupply latest.1 }

theorem readStatus_eq_complete {stale : Bool} {status : CoverageStatus} :
    readStatus stale status = .coverage .complete ↔ stale = false ∧ status = .complete := by
  cases stale <;> simp [readStatus]

/-! ## Evidence -/

/-- The snapshots that there is evidence of. -/
def AnalyticsDatabase.evidenced (db : AnalyticsDatabase) : List ℕ :=
  db.supplyEvidence.map (·.assetSnapshotId)

/-- Evidence is replaced, but not taken away. -/
theorem upsertEvidence_evidenced {row : UsdpSupplySnapshotEvidence} {db db' : AnalyticsDatabase}
    (result : upsertEvidence row db = .ok db') :
    db.evidenced ⊆ db'.evidenced ∧ row.assetSnapshotId ∈ db'.evidenced := by
  unfold upsertEvidence at result
  -- the two checks of the table
  split at result
  · cases result
  · split at result
    · cases result
    · obtain rfl := Except.ok.inj result
      unfold AnalyticsDatabase.evidenced
      dsimp only
      rw [KeyedTable.map_key_upsert _ _ _ _ fun _ _ => rfl]
      split
      · rename_i stored
        exact ⟨List.Subset.refl _, stored⟩
      · exact ⟨List.subset_append_left _ _, List.mem_append_right _ List.mem_cons_self⟩

/-- A snapshot that has been captured has its evidence. -/
theorem storeUsdpSupply_evidenced {adapter : UsdpSupplyAdapter} {rpcSource : SupplyRpcSource}
    {reading : UsdpSupplyReading} {db db' : AnalyticsDatabase} {component : UsdpSupplyComponent}
    (result : storeUsdpSupply adapter rpcSource reading db = .ok (component, db')) :
    db.evidenced ⊆ db'.evidenced ∧ component.assetSnapshotId ∈ db'.evidenced := by
  obtain ⟨db₁, inserted, result⟩ := bind_eq_ok.mp result
  obtain ⟨⟨assetSnapshotId, db₂⟩, snapshot, result⟩ := bind_eq_ok.mp result
  obtain ⟨db₃, evidence, result⟩ := bind_eq_ok.mp result
  obtain rfl := insertFinalizedBlock_eq_ok inserted
  obtain ⟨rfl, -⟩ := insertAssetSnapshot_eq_ok snapshot
  have kept := upsertEvidence_evidenced evidence
  obtain ⟨supplyEvidence, rfl⟩ := upsertEvidence_eq_ok evidence
  cases result
  exact kept

namespace SupplyCycle

variable (cycle : SupplyCycle) (keccak256 : String → String)

/-- Every component that a cycle has collected has its evidence. -/
theorem collect_evidenced (adapters : List UsdpSupplyAdapter) : ∀ db : AnalyticsDatabase,
    db.evidenced ⊆ (cycle.collect keccak256 adapters db).2.2.evidenced ∧
      ∀ component ∈ (cycle.collect keccak256 adapters db).1,
        component.assetSnapshotId ∈ (cycle.collect keccak256 adapters db).2.2.evidenced := by
  induction adapters with
  | nil => exact fun db => ⟨List.Subset.refl _, fun _ mem => absurd mem List.not_mem_nil⟩
  | cons adapter adapters ih =>
      intro db
      rw [collect]
      split
      · rename_i captured db' success
        obtain ⟨client, -, stored⟩ := attempt_eq_ok success
        obtain ⟨reading, -, stored⟩ := captureUsdpSupplyComponent_eq_ok.mp stored
        obtain ⟨kept, own⟩ := storeUsdpSupply_evidenced stored
        obtain ⟨keptAfter, others⟩ := ih db'
        refine ⟨List.Subset.trans kept keptAfter, fun component mem => ?_⟩
        rcases List.mem_cons.mp mem with rfl | rest
        · exact keptAfter own
        · exact others component rest
      · exact ih db

end SupplyCycle

/-- A call that is not a cycle takes no evidence away, and it leaves the supplies and their links as
they are. -/
theorem perform_evidenced {viem : Viem} {keccak256 : String → String} {call : AnalyticsCall}
    {db db' : AnalyticsDatabase} (result : call.perform viem keccak256 db = .ok db')
    (other : ∀ cycle, call ≠ .captureGlobalUsdpSupply cycle) :
    db.evidenced ⊆ db'.evidenced ∧ db'.globalSupplyComponents = db.globalSupplyComponents ∧
      db'.globalSupply = db.globalSupply := by
  cases call with
  | persistChunk fault chunk counters =>
      obtain ⟨_, -, rfl⟩ := map_eq_ok.mp result
      exact ⟨List.Subset.refl _, rfl, rfl⟩
  | syncParallelAssetRegistry =>
      cases result
      exact ⟨List.Subset.refl _, rfl, rfl⟩
  | captureSavingsChainSnapshot options =>
      obtain ⟨⟨⟨snapshotId, reading⟩, _⟩, captured, rfl⟩ := map_eq_ok.mp result
      obtain ⟨_, read, captured⟩ := bind_eq_ok.mp captured
      obtain ⟨⟨_, _⟩, stored, captured⟩ := bind_eq_ok.mp captured
      cases captured
      obtain ⟨assetSnapshots, _, _, us, ss, rfl, -⟩ := storeSavingsChain_eq_ok stored
      exact ⟨List.Subset.refl _, rfl, rfl⟩
  | captureUsdpSupplyComponent options =>
      obtain ⟨⟨component, _⟩, captured, rfl⟩ := map_eq_ok.mp result
      obtain ⟨reading, -, stored⟩ := captureUsdpSupplyComponent_eq_ok.mp captured
      refine ⟨(storeUsdpSupply_evidenced stored).1, ?_⟩
      obtain ⟨_, _, -, rfl, -⟩ := storeUsdpSupply_eq_ok stored
      exact ⟨rfl, rfl⟩
  | createGlobalSavingsSnapshot maximumAgeSeconds =>
      cases result
      exact ⟨List.Subset.refl _, rfl, rfl⟩
  | captureGlobalUsdpSupply cycle => exact absurd rfl (other cycle)
  | calculateSavingsYieldForRange options =>
      obtain ⟨⟨_, _⟩, calculated, rfl⟩ := map_eq_ok.mp result
      rcases calculateSavingsYieldForRange_eq_ok calculated with rfl |
        ⟨_, _, _, _, _, -, -, -, -, -, -, -, rfl⟩
      · exact ⟨List.Subset.refl _, rfl, rfl⟩
      · exact ⟨List.Subset.refl _, rfl, rfl⟩
  | reconcileSavingsYield chainId savingsYieldId =>
      obtain ⟨⟨_, _⟩, reconciled, rfl⟩ := map_eq_ok.mp result
      unfold AnalyticsDatabase.reconcileSavingsYield at reconciled
      split at reconciled
      · cases reconciled
        exact ⟨List.Subset.refl _, rfl, rfl⟩
      · obtain ⟨reconciliation, -, reconciled⟩ := bind_eq_ok.mp reconciled
        cases reconciled
        split
        · exact ⟨List.Subset.refl _, rfl, rfl⟩
        · exact ⟨List.Subset.refl _, rfl, rfl⟩
  | createGlobalSavingsYield windowStart windowEnd =>
      obtain ⟨⟨_, _⟩, created, rfl⟩ := map_eq_ok.mp result
      unfold createGlobalSavingsYield at created
      dsimp only at created
      split at created
      · cases created
      · split at created
        · cases created
        · cases created
          exact ⟨List.Subset.refl _, rfl, rfl⟩

/-! ## What is linked -/

/-- What is stored about the coverage of a supply is that of its links. -/
structure GlobalUsdpSupplySnapshot.Counts (row : GlobalUsdpSupplySnapshot)
    (links : List GlobalUsdpSupplySnapshotComponent) : Prop where
  count : row.includedChainCount = (links.filter (·.included)).length
  ids : row.includedChainIds = ascending ((links.filter (·.included)).map (·.chainId))
  expected : row.expectedChainCount = supplyChainIds.length
  status : row.coverageStatus
    = UsdpIndexer.coverageStatus row.includedChainCount row.expectedChainCount

/-- Every link has what the reader joins it with, and no chain is linked twice to a supply. -/
structure AnalyticsDatabase.SupplyLinked (db : AnalyticsDatabase) : Prop where
  references : db.SupplyReferences
  evidence : ∀ link ∈ db.globalSupplyComponents, link.assetSnapshotId ∈ db.evidenced
  expected : ∀ link ∈ db.globalSupplyComponents, link.chainId ∈ supplyChainIds
  distinct : ∀ id, ((db.supplyLinks id).map (·.chainId)).Nodup
  counted : ∀ ⦃id : ℕ⦄ ⦃row : GlobalUsdpSupplySnapshot⦄,
    db.globalSupply.find? id = some row → row.Counts (db.supplyLinks id)

section Linked

variable {viem : Viem} {keccak256 : String → String} {db db' : AnalyticsDatabase}

theorem AnalyticsDatabase.SupplyLinked.empty : AnalyticsDatabase.empty.SupplyLinked where
  references := SupplyReferences.empty
  evidence := fun _ mem => absurd mem List.not_mem_nil
  expected := fun _ mem => absurd mem List.not_mem_nil
  distinct := fun _ => List.nodup_nil
  counted := fun _ _ found => by cases found

/-- No link is there for a supply that is not. -/
theorem AnalyticsDatabase.SupplyReferences.supplyLinks_next (references : db.SupplyReferences) :
    db.supplyLinks db.globalSupply.next = [] := by
  rw [AnalyticsDatabase.supplyLinks, List.filter_eq_nil_iff]
  intro link mem
  obtain ⟨sum, found⟩ := references.sums link mem
  simp [Nat.ne_of_lt (lt_next_of_find? found)]

/-- The links of a cycle are all to its own supply. -/
theorem UsdpSupplyAggregate.filter_link (aggregate : UsdpSupplyAggregate)
    (components : List UsdpSupplyComponent) (globalSnapshotId id : ℕ) :
    (components.map (aggregate.link globalSnapshotId)).filter (·.globalSnapshotId = id)
      = if globalSnapshotId = id then components.map (aggregate.link globalSnapshotId) else [] := by
  split
  · rename_i same
    rw [List.filter_eq_self]
    intro link mem
    obtain ⟨component, -, rfl⟩ := List.mem_map.mp mem
    exact decide_eq_true same
  · rename_i other
    rw [List.filter_eq_nil_iff]
    intro link mem
    obtain ⟨component, -, rfl⟩ := List.mem_map.mp mem
    simpa [UsdpSupplyAggregate.link] using other

/-- The row of a cycle counts what the cycle links. -/
theorem UsdpSupplyAggregate.counts_link {components : List UsdpSupplyComponent}
    (reported : Reported (·.chainId) supplyChainIds components) (failed : List ℕ)
    (asOf maximumAgeSeconds alignmentMaximumSkewSeconds : ℤ) (globalSnapshotId : ℕ) (now : ℤ) :
    let aggregate := aggregateUsdpSupplyComponents components supplyChainIds failed asOf
      maximumAgeSeconds alignmentMaximumSkewSeconds
    (aggregate.globalSnapshot alignmentMaximumSkewSeconds now).Counts
      (components.map (aggregate.link globalSnapshotId)) := by
  intro aggregate
  have included : aggregate.included = components.filter fun component =>
      component.metadataVerified &&
        !component.isStale asOf maximumAgeSeconds alignmentMaximumSkewSeconds :=
    aggregateUsdpSupplyComponents_included reported
  have links : (components.map (aggregate.link globalSnapshotId)).filter (·.included)
      = aggregate.included.map (aggregate.link globalSnapshotId) := by
    rw [List.filter_map, included]
    congr 1
    apply List.filter_congr
    intro component mem
    have kept : decide (component.chainId ∈ aggregate.included.map (·.chainId))
        = (component.metadataVerified &&
          !component.isStale asOf maximumAgeSeconds alignmentMaximumSkewSeconds) := by
      rw [included]
      exact reported.decide_mem_ids_filter mem
    rw [← kept]
    exact decide_eq_decide.mpr mem_ascending
  refine ⟨?_, ?_, rfl, rfl⟩
  · rw [links, List.length_map]
    rfl
  · rw [links, List.map_map]
    rfl

/-- **A cycle links each of its chains once**, to a snapshot with evidence. -/
theorem AnalyticsDatabase.SupplyLinked.cycle (linked : db.SupplyLinked) {cycle : SupplyCycle}
    (references : (captureGlobalUsdpSupply keccak256 cycle db).2.SupplyReferences) :
    (captureGlobalUsdpSupply keccak256 cycle db).2.SupplyLinked := by
  have reported := cycle.collect_reported keccak256 (syncParallelAssetRegistry db)
  have written := cycle.collect_written keccak256 usdpSupplyAdapters (syncParallelAssetRegistry db)
  obtain ⟨kept, own⟩ :=
    cycle.collect_evidenced keccak256 usdpSupplyAdapters (syncParallelAssetRegistry db)
  unfold captureGlobalUsdpSupply persistGlobalSnapshot at references ⊢
  generalize cycle.collect keccak256 usdpSupplyAdapters (syncParallelAssetRegistry db) = collected
    at references reported written kept own ⊢
  obtain ⟨components, failed, db₁⟩ := collected
  obtain ⟨blocks, assetSnapshots, supplyEvidence, rfl, -, -⟩ := written
  -- the links of a supply after the cycle
  have links (aggregate : UsdpSupplyAggregate) (id : ℕ) :
      (db.globalSupplyComponents ++ components.map (aggregate.link db.globalSupply.next)).filter
          (·.globalSnapshotId = id)
        = if db.globalSupply.next = id then components.map (aggregate.link db.globalSupply.next)
          else db.supplyLinks id := by
    rw [List.filter_append, UsdpSupplyAggregate.filter_link]
    split
    · rename_i fresh
      have old := linked.references.supplyLinks_next
      rw [AnalyticsDatabase.supplyLinks, fresh] at old
      rw [old, List.nil_append]
    · exact List.append_nil _
  refine ⟨references, fun link mem => ?_, fun link mem => ?_, fun id => ?_, fun id row found => ?_⟩
  · rcases List.mem_append.mp mem with old | new
    · exact kept (linked.evidence link old)
    · obtain ⟨component, captured, rfl⟩ := List.mem_map.mp new
      exact own component captured
  · rcases List.mem_append.mp mem with old | new
    · exact linked.expected link old
    · obtain ⟨component, captured, rfl⟩ := List.mem_map.mp new
      exact reported.subset component captured
  · refine (congrArg (fun rows => (rows.map (·.chainId)).Nodup) (links _ id)).mpr ?_
    split
    · rw [List.map_map]
      exact reported.idsNodup
    · exact linked.distinct id
  · refine (congrArg row.Counts (links _ id)).mpr ?_
    by_cases fresh : id = db.globalSupply.next
    · subst fresh
      obtain rfl := Option.some.inj ((find?_insert_self _ _).symm.trans found)
      rw [if_pos rfl]
      exact UsdpSupplyAggregate.counts_link reported _ _ _ _ _ _
    · rw [if_neg (Ne.symm fresh)]
      exact linked.counted ((find?_insert_of_ne fresh _).symm.trans found)

theorem AnalyticsDatabase.SupplyLinked.perform (linked : db.SupplyLinked) {call : AnalyticsCall}
    (result : call.perform viem keccak256 db = .ok db') : db'.SupplyLinked := by
  by_cases isCycle : ∃ cycle, call = .captureGlobalUsdpSupply cycle
  · obtain ⟨cycle, rfl⟩ := isCycle
    have references := linked.references.effect (perform_effect result)
    cases result
    exact linked.cycle references
  · obtain ⟨kept, same, supplies⟩ :=
      perform_evidenced result fun cycle same => isCycle ⟨cycle, same⟩
    refine ⟨linked.references.effect (perform_effect result), ?_, ?_, ?_, ?_⟩
    · rw [same]
      exact fun link mem => kept (linked.evidence link mem)
    · rw [same]
      exact linked.expected
    · unfold AnalyticsDatabase.supplyLinks
      rw [same]
      exact linked.distinct
    · unfold AnalyticsDatabase.supplyLinks
      rw [same, supplies]
      exact linked.counted

theorem supplyLinked_run (calls : List TimedCall) :
    (analyticsRun viem keccak256 calls .empty).SupplyLinked := by
  refine Machine.run_invariant (fun (db : AnalyticsDatabase) _ => db.SupplyLinked) ?_ calls .empty
  intro input db _ linked
  have waited : (db.wait input.wait).SupplyLinked :=
    ⟨⟨linked.references.snapshots, linked.references.sums⟩, linked.evidence, linked.expected,
      linked.distinct, linked.counted⟩
  unfold analyticsStep
  split
  · rename_i performed
    exact waited.perform performed
  · exact waited

end Linked

/-! ## What is shown -/

section Shown

variable {db : AnalyticsDatabase}

theorem AnalyticsDatabase.joinEvidence_eq_some {link : GlobalUsdpSupplySnapshotComponent}
    {joined : SupplyComponentJoin} (join : db.joinEvidence link = some joined) :
    joined.link = link ∧ db.assetSnapshots.find? link.assetSnapshotId = some joined.snapshot := by
  obtain ⟨snapshot, found, join⟩ := Option.bind_eq_some_iff.mp join
  obtain ⟨evidence, -, join⟩ := Option.bind_eq_some_iff.mp join
  obtain rfl := Option.some.inj join
  exact ⟨rfl, found⟩

/-- **The join loses no link.** -/
theorem AnalyticsDatabase.SupplyLinked.map_link (linked : db.SupplyLinked)
    {links : List GlobalUsdpSupplySnapshotComponent} (stored : links ⊆ db.globalSupplyComponents) :
    (links.filterMap db.joinEvidence).map (·.link) = links := by
  induction links with
  | nil => rfl
  | cons link links ih =>
      obtain ⟨own, others⟩ := List.cons_subset.mp stored
      obtain ⟨snapshot, found⟩ := linked.references.snapshots link own
      obtain ⟨evidence, evident⟩ : ∃ evidence, KeyedTable.lookup
          UsdpSupplySnapshotEvidence.assetSnapshotId db.supplyEvidence link.assetSnapshotId
            = some evidence := by
        refine Option.ne_none_iff_exists'.mp fun missing => ?_
        exact KeyedTable.lookup_eq_none_iff _ |>.mp missing (linked.evidence link own)
      have join : db.joinEvidence link = some ⟨link, snapshot, evidence⟩ := by
        rw [AnalyticsDatabase.joinEvidence, found, evident]
        rfl
      rw [List.filterMap_cons_some join, List.map_cons, ih others]

theorem AnalyticsDatabase.SupplyLinked.map_link_supplyLinks (linked : db.SupplyLinked) (id : ℕ) :
    ((db.supplyLinks id).filterMap db.joinEvidence).map (·.link) = db.supplyLinks id :=
  linked.map_link fun _ mem => (List.mem_filter.mp mem).1

theorem AnalyticsDatabase.perm_linkedSupply (db : AnalyticsDatabase) (id : ℕ) :
    (db.linkedSupply id).Perm ((db.supplyLinks id).filterMap db.joinEvidence) :=
  perm_sortBy _ _

/-- The components that are shown are the links, by chain. -/
theorem AnalyticsDatabase.SupplyLinked.linkedSupply (linked : db.SupplyLinked) (id : ℕ) :
    ((db.linkedSupply id).map (·.link)).Perm (db.supplyLinks id) ∧
      ((db.linkedSupply id).map (·.link.chainId)).Pairwise (· < ·) := by
  have perm : ((db.linkedSupply id).map (·.link)).Perm (db.supplyLinks id) := by
    have sorted := (db.perm_linkedSupply id).map (·.link)
    rwa [linked.map_link_supplyLinks] at sorted
  refine ⟨perm, ?_⟩
  have orders : OrdersBy (fun a b : SupplyComponentJoin => (a.link.chainId : ℤ) - b.link.chainId)
      fun component => component.link.chainId := fun a b => by
    dsimp only
    omega
  have nodup : ((db.linkedSupply id).map (·.link.chainId)).Nodup := by
    have := (perm.map (·.chainId)).nodup_iff.mpr (linked.distinct id)
    rwa [List.map_map] at this
  have sorted : ((db.linkedSupply id).map (·.link.chainId)).Pairwise (· ≤ ·) :=
    List.pairwise_map.mpr (pairwise_sortBy orders _)
  exact (sorted.and nodup).imp fun both => lt_of_le_of_ne both.1 both.2

/-- The rows that a supply is traced to are those of its included components. -/
theorem AnalyticsDatabase.SupplyLinked.includedSupplyRows (linked : db.SupplyLinked) (id : ℕ) :
    db.includedSupplyRows id = ((((db.supplyLinks id).filterMap db.joinEvidence).filter
      (·.link.included)).map (·.snapshot)).map some := by
  have split : db.globalSupplyComponents.filter (fun link =>
      link.globalSnapshotId = id ∧ link.included) = (((db.supplyLinks id).filterMap
        db.joinEvidence).filter (·.link.included)).map (·.link) := by
    have mapped := congrArg (List.filter (·.included)) (linked.map_link_supplyLinks id)
    rw [List.filter_map] at mapped
    rw [Function.comp_def] at mapped
    rw [mapped, AnalyticsDatabase.supplyLinks, List.filter_filter]
    apply List.filter_congr
    intro link _
    simp [and_comm]
  unfold AnalyticsDatabase.includedSupplyRows
  rw [split, List.map_map, List.map_map]
  apply List.map_congr_left
  intro joined mem
  obtain ⟨link, -, join⟩ := List.mem_filterMap.mp (List.mem_filter.mp mem).1
  obtain ⟨rfl, found⟩ := AnalyticsDatabase.joinEvidence_eq_some join
  exact found

/-- What is included lies on the chains of the savings or outside of them. -/
theorem sumIncludedSupplyOutsideChains_add (components : List SupplyComponentJoin)
    (savingsChainIds : List ℕ) :
    sumIncludedSupplyOutsideChains components savingsChainIds
        + sumIncludedSupplyOnChains components savingsChainIds
      = ((components.filter (·.link.included)).map
          fun component => (component.snapshot.totalSupply : ℤ)).sum := by
  unfold sumIncludedSupplyOutsideChains sumIncludedSupplyOnChains
  induction components with
  | nil => rfl
  | cons component components ih =>
      simp only [List.filter_cons]
      by_cases included : component.link.included = true
      · by_cases inside : component.link.chainId ∈ savingsChainIds
        · simp [included, inside] at ih ⊢
          omega
        · simp [included, inside] at ih ⊢
          omega
      · simpa [included] using ih

/-- A supply is traced exactly if the components that are shown are valid and add up to it. -/
theorem AnalyticsDatabase.SupplyLinked.supplyTraced_iff (linked : db.SupplyLinked) (id : ℕ)
    (row : GlobalUsdpSupplySnapshot) (savingsChainIds : List ℕ) :
    db.SupplyTraced id row ↔
      row.candidateTotalSupply
          = sumIncludedSupplyOutsideChains (db.linkedSupply id) savingsChainIds
            + sumIncludedSupplyOnChains (db.linkedSupply id) savingsChainIds ∧
        ∀ component ∈ db.linkedSupply id, component.link.included = true →
          component.snapshot.snapshotStatus ≠ .invalid := by
  have perm := (db.perm_linkedSupply id).filter (·.link.included)
  rw [sumIncludedSupplyOutsideChains_add, supplyTraced_iff_of_rows (linked.includedSupplyRows id),
    List.map_map, (perm.map _).sum_eq]
  refine and_congr Iff.rfl ?_
  simp only [List.forall_mem_map]
  constructor
  · intro valid component mem included
    exact valid component (perm.mem_iff.mp (List.mem_filter.mpr ⟨mem, included⟩))
  · intro valid component mem
    obtain ⟨shown, included⟩ := List.mem_filter.mp (perm.mem_iff.mpr mem)
    exact valid component shown included

/-- A supply is complete exactly if every expected chain is shown and included. -/
theorem AnalyticsDatabase.SupplyLinked.complete_iff (linked : db.SupplyLinked) {id : ℕ}
    {row : GlobalUsdpSupplySnapshot} (found : db.globalSupply.find? id = some row) :
    row.coverageStatus = .complete ↔ ∀ chainId ∈ supplyChainIds,
      ∃ component ∈ db.linkedSupply id,
        component.link.chainId = chainId ∧ component.link.included = true := by
  have counts := linked.counted found
  have perm := (linked.linkedSupply id).1
  have reported : Reported (·.chainId) supplyChainIds (db.supplyLinks id) :=
    ⟨by decide, by decide, linked.distinct id,
      fun link mem => linked.expected link (List.mem_filter.mp mem).1⟩
  rw [counts.status, coverageStatus_eq_complete, counts.count, counts.expected,
    reported.length_filter_eq_length_iff]
  constructor
  · rintro ⟨all, included⟩ chainId mem
    obtain ⟨link, inside, rfl⟩ := List.mem_map.mp (all chainId mem)
    obtain ⟨component, shown, rfl⟩ := List.mem_map.mp (perm.mem_iff.mpr inside)
    exact ⟨component, shown, rfl, included _ inside⟩
  · intro all
    refine ⟨fun chainId mem => ?_, fun link mem => ?_⟩
    · obtain ⟨component, shown, rfl, -⟩ := all chainId mem
      exact List.mem_map_of_mem (perm.mem_iff.mp (List.mem_map_of_mem shown))
    · -- the component of this chain has this very link
      obtain ⟨component, shown, same, included⟩ := all link.chainId (reported.subset link mem)
      have inside : component.link ∈ db.supplyLinks id :=
        perm.mem_iff.mp (List.mem_map_of_mem shown)
      rwa [List.inj_on_of_nodup_map (linked.distinct id) inside mem same] at included

/-- A shown component is of a known chain. -/
theorem AnalyticsDatabase.SupplyLinked.known (linked : db.SupplyLinked) {id : ℕ}
    {component : SupplyComponentJoin} (mem : component ∈ db.linkedSupply id) :
    ∃ adapter ∈ usdpSupplyAdapters, adapter.deployment.chainId = component.link.chainId ∧
      component.chainSlug = adapter.deployment.chainSlug ∧
      component.chainName = adapter.deployment.chainName := by
  have stored : component.link ∈ db.supplyLinks id :=
    (linked.linkedSupply id).1.mem_iff.mp (List.mem_map_of_mem mem)
  obtain ⟨adapter, known, chain⟩ :=
    List.mem_map.mp (linked.expected _ (List.mem_filter.mp stored).1)
  have found : component.adapter?.isSome := by
    rw [SupplyComponentJoin.adapter?, List.find?_isSome]
    exact ⟨adapter, known, decide_eq_true chain⟩
  obtain ⟨adapter', found⟩ := Option.isSome_iff_exists.mp found
  refine ⟨adapter', List.mem_of_find?_eq_some found, by simpa using List.find?_some found, ?_, ?_⟩
  · rw [SupplyComponentJoin.chainSlug, found]
    rfl
  · rw [SupplyComponentJoin.chainName, found]
    rfl

end Shown

/-- A supply as it is shown: it is the latest one, with all of its links, one for a chain. -/
structure GlobalUsdpSupplyReading.Sound (db : AnalyticsDatabase)
    (shown : GlobalUsdpSupplyReading) : Prop where
  stored : db.globalSupply.find? shown.globalSnapshotId = some shown.snapshot
  latest : ∀ row ∈ db.globalSupply.rows, toLex (row.2.asOf, row.2.createdAt)
    ≤ toLex (shown.snapshot.asOf, shown.snapshot.createdAt)
  links : (shown.components.map (·.link)).Perm (db.supplyLinks shown.globalSnapshotId)
  ordered : (shown.components.map (·.link.chainId)).Pairwise (· < ·)
  named : ∀ component ∈ shown.components, ∃ adapter ∈ usdpSupplyAdapters,
    adapter.deployment.chainId = component.link.chainId ∧
    component.chainSlug = adapter.deployment.chainSlug ∧
    component.chainName = adapter.deployment.chainName
  complete : shown.status = .coverage .complete ↔ shown.stale = false ∧
    ∀ chainId ∈ supplyChainIds, ∃ component ∈ shown.components,
      component.link.chainId = chainId ∧ component.link.included = true

/-- **What is shown adds up exactly if the supply can be traced.**  After any calls, in any order
and with whatever failures, the supply that is shown is the latest one, and the join loses none of
its components.  They are valid and add up to it, on the savings chains and outside of them, exactly
if it is traced to its rows. -/
theorem supply_shown_adds_up (viem : Viem) (keccak256 : String → String) (calls : List TimedCall)
    (now maximumAgeSeconds : ℤ) :
    let db := analyticsRun viem keccak256 calls .empty
    (readLatestGlobalUsdpSupply now maximumAgeSeconds db = none ↔ db.globalSupply.rows = []) ∧
      ∀ shown, readLatestGlobalUsdpSupply now maximumAgeSeconds db = some shown →
        shown.Sound db ∧
        ∀ savingsChainIds, db.SupplyTraced shown.globalSnapshotId shown.snapshot ↔
          shown.snapshot.candidateTotalSupply
              = sumIncludedSupplyOutsideChains shown.components savingsChainIds
                + sumIncludedSupplyOnChains shown.components savingsChainIds ∧
            ∀ component ∈ shown.components, component.link.included = true →
              component.snapshot.snapshotStatus ≠ .invalid := by
  dsimp only
  have linked : (analyticsRun viem keccak256 calls .empty).SupplyLinked := supplyLinked_run calls
  generalize analyticsRun viem keccak256 calls .empty = db at linked ⊢
  refine ⟨?_, fun shown read => ?_⟩
  · rw [readLatestGlobalUsdpSupply, Option.map_eq_none_iff]
    exact first_eq_none_iff
  · obtain ⟨⟨id, row⟩, selected, rfl⟩ := Option.map_eq_some_iff.mp read
    have found : db.globalSupply.find? id = some row :=
      find?_eq_some_iff.mpr (mem_of_first selected)
    refine ⟨?_, linked.supplyTraced_iff id row⟩
    refine ⟨found, fun other mem => ?_, (linked.linkedSupply id).1, (linked.linkedSupply id).2,
      fun component mem => linked.known mem, ?_⟩
    · exact toLex_le_of_first (fun row : ℕ × GlobalUsdpSupplySnapshot => row.2.asOf) (·.2.createdAt)
        selected mem
    · rw [← linked.complete_iff found]
      exact readStatus_eq_complete

end UsdpIndexer
