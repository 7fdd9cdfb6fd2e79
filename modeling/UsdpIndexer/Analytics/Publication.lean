import UsdpIndexer.Analytics.DashboardReadiness

/-!
# What the dashboard publishes

A row of the dashboard is published if the two aggregates that the query selects happen to be
of the row's range.  An aggregate of exactly that range is outranked by one that reaches
further, so a later rebuild takes the publication back.  `published_iff` is the condition on
the table under which that does not happen, whatever order the rows come in.
-/

namespace UsdpIndexer

open KeyedTable StableOrder SelectFirst EconomicEvents

/-! ## Aggregates and their rivals -/

/-- A complete aggregate of exactly the row's range and scope. -/
structure ActivityAggregate.ExactFor (aggregate : ActivityAggregate)
    (range : LifetimeDashboardRange) (assetId : ParallelAssetId) : Prop where
  chain : aggregate.row.chainId = range.chainId
  asset : aggregate.row.activity.assetId = assetId
  scope : aggregate.row.sourceScope = range.scope
  fromBlock : aggregate.row.sourceFromBlock = range.fromBlock
  toBlock : aggregate.row.sourceToBlock = range.goalBlock
  complete : aggregate.row.historyComplete = true

/-- It reaches further, or as far and is newer. -/
def ActivityAggregate.Outranks (a b : ActivityAggregate) : Prop :=
  b.row.sourceToBlock < a.row.sourceToBlock ∨
    b.row.sourceToBlock = a.row.sourceToBlock ∧ b.createdAt < a.createdAt

namespace DashboardDatabase

variable (db : DashboardDatabase) (range : LifetimeDashboardRange) (assetId : ParallelAssetId)

/-- The aggregates among which one is selected for an asset of a row. -/
def rivals : List ActivityAggregate :=
  db.candidates.filter fun aggregate =>
    aggregate.row.chainId = range.chainId ∧ aggregate.row.activity.assetId = assetId

/-- An aggregate that no rival outranks shows the figures of one of exactly the row's range. -/
def Prevails : Prop :=
  ∀ other ∈ db.rivals range assetId,
    (∀ rival ∈ db.rivals range assetId, ¬ rival.Outranks other) →
      ∃ aggregate ∈ db.activity, aggregate.ExactFor range assetId ∧
        aggregate.metric = other.metric

/-- A fixed window that has been indexed to its end, which is never called published. -/
def WindowDone : Prop :=
  range.coverageKind = .window ∧ pastGoal (db.nextBlock range) range.goalBlock

/-- The same tables with the activity in another order. -/
def withActivity (activity : List ActivityAggregate) : DashboardDatabase :=
  { db with activity := activity }

end DashboardDatabase

/-- The row is published with the figures of aggregates of exactly its range. -/
structure LifetimeDashboardRow.Published (row : LifetimeDashboardRow)
    (activity : List ActivityAggregate) : Prop where
  status : row.publicationStatus = .published
  values : ∀ assetId, ∃ aggregate ∈ activity, aggregate.ExactFor row.range assetId ∧
    row.asset assetId = some aggregate.metric

/-- The dashboard has a row for the range, and it is published. -/
def DashboardDatabase.Publishes (db : DashboardDatabase) (range : LifetimeDashboardRange) : Prop :=
  ∃ row ∈ readLifetimeDashboard db, row.range = range ∧ row.Published db.activity

/-! ## What is selected -/

section Selection

variable {db : DashboardDatabase} {range : LifetimeDashboardRange} {assetId : ParallelAssetId}
  {aggregate : ActivityAggregate}

theorem furthestFirst_nonpos_iff {a b : ActivityAggregate} :
    furthestFirst a b ≤ 0 ↔ ¬ b.Outranks a := by
  rw [furthestFirst, lexCompare_nonpos_iff, ActivityAggregate.Outranks]
  omega

theorem asset_eq_iff {a b : ActivityAggregate} : a.asset = b.asset
    ↔ a.row.chainId = b.row.chainId ∧ a.row.activity.assetId = b.row.activity.assetId := by
  have rank {x y : ParallelAssetId} : x.rank = y.rank ↔ x = y := by
    cases x <;> cases y <;> decide
  rw [ActivityAggregate.asset, ActivityAggregate.asset, toLex_inj, Prod.mk.injEq, rank]

/-- Of an asset's rivals the first is left, if it is of the range. -/
theorem mem_assetRows : aggregate ∈ db.assetRows range
    ↔ first furthestFirst (db.rivals range aggregate.row.activity.assetId) = some aggregate ∧
      aggregate.row.sourceFromBlock = range.fromBlock ∧
      aggregate.row.sourceToBlock = range.goalBlock := by
  have rivals (chain : aggregate.row.chainId = range.chainId) :
      db.candidates.filter (·.asset = aggregate.asset)
        = db.rivals range aggregate.row.activity.assetId := by
    refine List.filter_congr fun other _ => ?_
    rw [decide_eq_decide, asset_eq_iff, chain]
  rw [DashboardDatabase.assetRows, List.mem_filter, decide_eq_true_iff,
    DashboardDatabase.activityRows, mem_distinctOn]
  constructor
  · rintro ⟨selected, chain, fromBlock, toBlock⟩
    rw [rivals chain] at selected
    exact ⟨selected, fromBlock, toBlock⟩
  · rintro ⟨selected, fromBlock, toBlock⟩
    have chain : aggregate.row.chainId = range.chainId :=
      (of_decide_eq_true (List.mem_filter.mp (mem_of_first selected)).2).1
    rw [rivals chain]
    exact ⟨selected, chain, fromBlock, toBlock⟩

/-- One aggregate is left for an asset at most. -/
theorem nodup_assetRows :
    ((db.assetRows range).map fun aggregate => aggregate.row.activity.assetId).Nodup := by
  have distinct : (db.assetRows range).Pairwise fun a b => a.asset ≠ b.asset := by
    have nodup : ((db.activityRows).map ActivityAggregate.asset).Nodup := nodup_distinctOn
    rw [List.Nodup, List.pairwise_map] at nodup
    exact nodup.filter _
  rw [List.Nodup, List.pairwise_map]
  refine distinct.imp_of_mem fun {a b} ha hb differ same => differ ?_
  have chainA := (of_decide_eq_true (List.mem_filter.mp ha).2).1
  have chainB := (of_decide_eq_true (List.mem_filter.mp hb).2).1
  exact asset_eq_iff.mpr ⟨chainA.trans chainB.symm, same⟩

/-- Two assets are shown exactly if each is. -/
theorem two_le_length_iff {ids : List ParallelAssetId} (nodup : ids.Nodup) :
    2 ≤ ids.length ↔ ∀ assetId, assetId ∈ ids := by
  constructor
  · intro two assetId
    match ids with
    | [] => simp at two
    | [_] => simp at two
    | first :: second :: _ =>
        have differ : first ≠ second := fun same => by simp [same] at nodup
        cases assetId <;> cases first <;> cases second <;> simp_all
  · intro all
    have both : [ParallelAssetId.usdp, .susdp].Subperm ids :=
      List.subperm_of_subset (by decide) fun assetId _ => all assetId
    exact both.length_le

/-- What is shown for an asset are the figures of the aggregate that is left. -/
theorem asset_dashboardRow_iff {metric : LifetimeActivityMetric} :
    (db.dashboardRow range).asset assetId = some metric
      ↔ ∃ aggregate ∈ db.assetRows range, aggregate.row.activity.assetId = assetId ∧
          aggregate.metric = metric := by
  have entry {shown : ParallelAssetId × LifetimeActivityMetric} :
      shown ∈ (db.dashboardRow range).assets.filter (·.1 = assetId)
        ↔ ∃ aggregate ∈ db.assetRows range, aggregate.row.activity.assetId = assetId ∧
            (assetId, aggregate.metric) = shown := by
    rw [List.mem_filter, DashboardDatabase.dashboardRow, List.mem_map, decide_eq_true_iff]
    constructor
    · rintro ⟨⟨aggregate, mem, rfl⟩, same⟩
      exact ⟨aggregate, mem, same, by rw [← same]⟩
    · rintro ⟨aggregate, mem, same, rfl⟩
      exact ⟨⟨aggregate, mem, by rw [same]⟩, rfl⟩
  rw [LifetimeDashboardRow.asset, Option.map_eq_some_iff]
  constructor
  · rintro ⟨shown, last, rfl⟩
    obtain ⟨aggregate, mem, same, rfl⟩ := entry.mp (List.mem_of_getLast? last)
    exact ⟨aggregate, mem, same, rfl⟩
  · rintro ⟨aggregate, mem, same, rfl⟩
    have shown := entry.mpr ⟨aggregate, mem, same, rfl⟩
    obtain ⟨last, found⟩ := Option.isSome_iff_exists.mp
      (List.getLast?_isSome.mpr (List.ne_nil_of_mem shown))
    -- the entries under one id come from one aggregate
    obtain ⟨other, hother, otherSame, rfl⟩ := entry.mp (List.mem_of_getLast? found)
    have one : other = aggregate :=
      List.inj_on_of_nodup_map nodup_assetRows hother mem (otherSame.trans same.symm)
    exact ⟨(assetId, other.metric), found, by rw [one]⟩

theorem mem_rivals : aggregate ∈ db.rivals range assetId ↔ aggregate ∈ db.activity ∧
    (aggregate.row.sourceScope ∈ dashboardScopes ∧ aggregate.row.historyComplete) ∧
      aggregate.row.chainId = range.chainId ∧ aggregate.row.activity.assetId = assetId := by
  rw [DashboardDatabase.rivals, List.mem_filter, DashboardDatabase.candidates, List.mem_filter,
    decide_eq_true_iff, decide_eq_true_iff, and_assoc]

theorem lifetimePublicationStatus_eq_published_iff {nextBlock : Option ℤ} {goalBlock : ℤ}
    {publishedAssets : ℕ} {coverageKind : CoverageKind} :
    lifetimePublicationStatus nextBlock goalBlock publishedAssets coverageKind = .published
      ↔ ¬(coverageKind = .window ∧ pastGoal nextBlock goalBlock) ∧ 2 ≤ publishedAssets := by
  rw [lifetimePublicationStatus]
  split
  · next done => simp [done]
  · next notDone =>
      split
      · next two => exact ⟨fun _ => ⟨notDone, two⟩, fun _ => rfl⟩
      · next few =>
          have differs : (if pastGoal nextBlock goalBlock then PublicationStatus.deriving_metrics
              else if nextBlock ≠ none then .indexing else .not_started) ≠ .published := by
            split
            · decide
            · split <;> decide
          exact ⟨fun published => absurd published differs, fun ⟨_, two⟩ => absurd two few⟩

/-- A row is published if for both assets the first rival has the figures of an aggregate of
exactly its range. -/
theorem publishes_iff (known : range ∈ lifetimeDashboardRanges) :
    db.Publishes range ↔ ¬ db.WindowDone range ∧
    ∀ assetId, ∃ shown, first furthestFirst (db.rivals range assetId) = some shown ∧
      ∃ aggregate ∈ db.activity, aggregate.ExactFor range assetId ∧
        aggregate.metric = shown.metric := by
  constructor
  · rintro ⟨row, mem, same, status, values⟩
    obtain rfl := (mem_readLifetimeDashboard known).mp ⟨mem, same⟩
    have published := lifetimePublicationStatus_eq_published_iff.mp status
    refine ⟨published.1, fun assetId => ?_⟩
    obtain ⟨aggregate, mem, exact, value⟩ := values assetId
    obtain ⟨shown, left, same, metric⟩ := asset_dashboardRow_iff.mp value
    obtain ⟨selected, -⟩ := mem_assetRows.mp left
    exact ⟨shown, by rw [← same]; exact selected, aggregate, mem, exact, metric.symm⟩
  · rintro ⟨notDone, each⟩
    have left (assetId : ParallelAssetId) : ∃ shown ∈ db.assetRows range,
        shown.row.activity.assetId = assetId ∧
          ∃ aggregate ∈ db.activity, aggregate.ExactFor range assetId ∧
            aggregate.metric = shown.metric := by
      obtain ⟨shown, selected, aggregate, mem, exact, metric⟩ := each assetId
      have same := (mem_rivals.mp (mem_of_first selected)).2.2.2
      have fromBlock := congrArg LifetimeActivityMetric.sourceFromBlock metric
      have toBlock := congrArg LifetimeActivityMetric.sourceToBlock metric
      refine ⟨shown, mem_assetRows.mpr ⟨by rw [same]; exact selected, ?_, ?_⟩, same,
        aggregate, mem, exact, metric⟩
      · exact fromBlock.symm.trans exact.fromBlock
      · exact toBlock.symm.trans exact.toBlock
    obtain ⟨mem, same⟩ := (mem_readLifetimeDashboard known).mpr (Eq.refl (db.dashboardRow range))
    refine ⟨_, mem, same, lifetimePublicationStatus_eq_published_iff.mpr ⟨notDone, ?_⟩,
      fun assetId => ?_⟩
    · rw [← List.length_map fun aggregate => aggregate.row.activity.assetId]
      refine (two_le_length_iff nodup_assetRows).mpr fun assetId => ?_
      obtain ⟨shown, mem, same, -⟩ := left assetId
      exact List.mem_map.mpr ⟨shown, mem, same⟩
    · obtain ⟨shown, mem, same, aggregate, hmem, exact, metric⟩ := left assetId
      exact ⟨aggregate, hmem, exact, asset_dashboardRow_iff.mpr ⟨shown, mem, same, metric.symm⟩⟩

/-- A rival that no other outranks is selected in some order of the table. -/
theorem exists_first_rivals (mem : aggregate ∈ db.rivals range assetId)
    (unrivalled : ∀ rival ∈ db.rivals range assetId, ¬ rival.Outranks aggregate) :
    ∃ activity, activity.Perm db.activity ∧
      first furthestFirst ((db.withActivity activity).rivals range assetId) = some aggregate := by
  obtain ⟨stored, candidate, asked⟩ := mem_rivals.mp mem
  have perm : (aggregate :: db.activity.erase aggregate).Perm db.activity :=
    (List.perm_cons_erase stored).symm
  refine ⟨aggregate :: db.activity.erase aggregate, perm, ?_⟩
  have split : (db.withActivity (aggregate :: db.activity.erase aggregate)).rivals range assetId
      = aggregate :: (db.withActivity (db.activity.erase aggregate)).rivals range assetId := by
    rw [DashboardDatabase.rivals, DashboardDatabase.candidates, DashboardDatabase.withActivity,
      List.filter_cons_of_pos (by simpa using candidate),
      List.filter_cons_of_pos (by simpa using asked)]
    rfl
  rw [split]
  refine first_cons fun rival hrival => furthestFirst_nonpos_iff.mpr (unrivalled rival ?_)
  obtain ⟨inside, conditions⟩ := mem_rivals.mp hrival
  exact mem_rivals.mpr ⟨List.mem_of_mem_erase inside, conditions⟩

/-- The selected rival is outranked by none. -/
theorem not_outranks_of_first {shown rival : ActivityAggregate}
    (selected : first furthestFirst (db.rivals range assetId) = some shown)
    (mem : rival ∈ db.rivals range assetId) : ¬ rival.Outranks shown := by
  have orders : OrdersBy furthestFirst fun aggregate : ActivityAggregate =>
      toLex (-aggregate.row.sourceToBlock, -aggregate.createdAt) := ordersBy_lexCompare_desc _ _
  exact furthestFirst_nonpos_iff.mp ((orders _ _).mpr (order_le_of_first orders selected mem))

end Selection

/-! ## Publication -/

/-- **When a row with aggregates of exactly its range is published.**  The query leaves open
which of several equally good aggregates it selects, so every order of the table counts. -/
theorem published_iff (db : DashboardDatabase) (range : LifetimeDashboardRange)
    (known : range ∈ lifetimeDashboardRanges)
    (exact : ∀ assetId, ∃ aggregate ∈ db.activity, aggregate.ExactFor range assetId) :
    (∀ activity, activity.Perm db.activity → (db.withActivity activity).Publishes range)
      ↔ (∀ assetId, db.Prevails range assetId) ∧ ¬ db.WindowDone range := by
  constructor
  · intro publishes
    refine ⟨fun assetId other mem unrivalled => ?_, ?_⟩
    · obtain ⟨activity, perm, selected⟩ := exists_first_rivals mem unrivalled
      obtain ⟨shown, chosen, aggregate, stored, exactFor, metric⟩ :=
        ((publishes_iff known).mp (publishes activity perm)).2 assetId
      have same : shown = other := Option.some.inj (chosen.symm.trans selected)
      exact ⟨aggregate, perm.mem_iff.mp stored, exactFor, by rw [metric, same]⟩
    · exact ((publishes_iff known).mp (publishes db.activity (List.Perm.refl _))).1
  · rintro ⟨prevails, notDone⟩ activity perm
    have rivals {assetId : ParallelAssetId} {aggregate : ActivityAggregate} :
        aggregate ∈ (db.withActivity activity).rivals range assetId
          ↔ aggregate ∈ db.rivals range assetId := by
      rw [mem_rivals, mem_rivals, ← perm.mem_iff]
      rfl
    refine (publishes_iff known).mpr ⟨notDone, fun assetId => ?_⟩
    obtain ⟨candidate, stored, exactFor⟩ := exact assetId
    have scope : candidate.row.sourceScope ∈ dashboardScopes := by
      rw [exactFor.scope]
      exact List.mem_map_of_mem known
    have entered : candidate ∈ (db.withActivity activity).rivals range assetId :=
      rivals.mpr (mem_rivals.mpr
        ⟨stored, ⟨scope, exactFor.complete⟩, exactFor.chain, exactFor.asset⟩)
    cases selected : first furthestFirst ((db.withActivity activity).rivals range assetId) with
    | none =>
        rw [first_eq_none_iff.mp selected] at entered
        exact absurd entered List.not_mem_nil
    | some shown =>
        obtain ⟨aggregate, hmem, hexact, metric⟩ :=
          prevails assetId shown (rivals.mp (mem_of_first selected)) fun rival hrival =>
            not_outranks_of_first selected (rivals.mpr hrival)
        exact ⟨shown, rfl, aggregate, perm.mem_iff.mpr hmem, hexact, metric⟩

/-! ## The row of Ethereum -/

/-- The range of the dashboard on Ethereum. -/
def ethereumLifetime : LifetimeDashboardRange :=
  ⟨1, "ethereum", "Ethereum", "parallel-assets-ethereum-lifetime-v1", .lifetime,
    22639007, 25542442⟩

/-- What a lifetime rebuild up to a block leaves for an asset. -/
def ethereumActivity (toBlock createdAt : ℤ) (assetId : ParallelAssetId) : ActivityAggregate where
  row :=
    { chainId := 1
      activity := ⟨assetId, 1750000000000, 1784160000000, 900, 1000, 100, 5, 3, 4, 6, 5, 2⟩
      sourceScope := "parallel-assets-ethereum-lifetime-v1"
      sourceFromBlock := 22639007
      sourceToBlock := toBlock
      historyComplete := true
      manifestVersion := "parallel-assets-v1"
      calculationVersion := "holder-replay-v1" }
  createdAt := createdAt

theorem exactFor_ethereumActivity (createdAt : ℤ) (assetId : ParallelAssetId) :
    (ethereumActivity 25542442 createdAt assetId).ExactFor ethereumLifetime assetId :=
  ⟨rfl, rfl, rfl, rfl, rfl, rfl⟩

/-- The database after lifetime rebuilds up to the given blocks, one a millisecond. -/
def rebuiltUpTo (toBlocks : List ℤ) : DashboardDatabase where
  index := Database.empty
  activity := toBlocks.zipIdx.flatMap fun (toBlock, createdAt) =>
    [ethereumActivity toBlock createdAt .usdp, ethereumActivity toBlock createdAt .susdp]
  flows := []
  yields := []

/-- A rebuild that stops short of the goal does no harm. -/
theorem published_capped :
    (rebuiltUpTo [25542442, 25000000]).Publishes ethereumLifetime := by
  have stored (assetId : ParallelAssetId) :
      ethereumActivity 25542442 0 assetId ∈ (rebuiltUpTo [25542442, 25000000]).activity := by
    cases assetId <;> decide
  have prevails (assetId : ParallelAssetId) :
      (rebuiltUpTo [25542442, 25000000]).Prevails ethereumLifetime assetId := by
    intro other mem unrivalled
    refine ⟨ethereumActivity 25542442 0 assetId, stored assetId,
      exactFor_ethereumActivity 0 assetId, ?_⟩
    have full : ethereumActivity 25542442 0 assetId
        ∈ (rebuiltUpTo [25542442, 25000000]).rivals ethereumLifetime assetId :=
      mem_rivals.mpr ⟨stored assetId, ⟨by cases assetId <;> decide, rfl⟩, rfl, rfl⟩
    have reach : ¬ other.row.sourceToBlock < 25542442 :=
      fun short => unrivalled _ full (Or.inl short)
    obtain ⟨inside, -, -, same⟩ := mem_rivals.mp mem
    have listed : other ∈ [ethereumActivity 25542442 0 .usdp, ethereumActivity 25542442 0 .susdp,
      ethereumActivity 25000000 1 .usdp, ethereumActivity 25000000 1 .susdp] := inside
    simp only [List.mem_cons, List.not_mem_nil, or_false] at listed
    rcases listed with rfl | rfl | rfl | rfl
    · rw [← same]; rfl
    · rw [← same]; rfl
    · exact absurd (by decide) reach
    · exact absurd (by decide) reach
  have notDone : ¬ (rebuiltUpTo [25542442, 25000000]).WindowDone ethereumLifetime :=
    fun done => by cases done.1
  refine (published_iff (rebuiltUpTo [25542442, 25000000]) ethereumLifetime (by decide) ?_).mpr
    ⟨prevails, notDone⟩ _ (List.Perm.refl _)
  exact fun assetId => ⟨_, stored assetId, exactFor_ethereumActivity 0 assetId⟩

/-- **A rebuild past the goal takes the publication back.** -/
theorem published_fails_extended :
    ¬ ∀ (db : DashboardDatabase) (range : LifetimeDashboardRange),
      range ∈ lifetimeDashboardRanges → range.coverageKind = .lifetime →
      (∀ assetId, ∃ aggregate ∈ db.activity, aggregate.ExactFor range assetId) →
      db.Publishes range := by
  intro published
  obtain ⟨row, mem, same, shown⟩ := published (rebuiltUpTo [25542442, 25600000])
    ethereumLifetime (by decide) rfl
    fun assetId => ⟨ethereumActivity 25542442 0 assetId, by cases assetId <;> decide,
      exactFor_ethereumActivity 0 assetId⟩
  obtain rfl := (mem_readLifetimeDashboard (by decide)).mp ⟨mem, same⟩
  exact absurd shown.status (by decide +kernel)

end UsdpIndexer
