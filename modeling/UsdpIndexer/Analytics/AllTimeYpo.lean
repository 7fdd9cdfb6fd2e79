import UsdpIndexer.Analytics.IntervalTiling
import UsdpIndexer.Analytics.RangeAnalytics
import UsdpIndexer.Library.GaplessWindows

/-!
# The yield of all time

With the preset `all` the yield of a chain starts with the complete history of its sUSDp.  A
lifetime history starts at the earlier of the two deployments of the chain, and the yields are
stored from the deployment of sUSDp on.  The two meet in one comparison: the first interval
has to start within five minutes of the range.

So yields that are stored without a gap are complete if the scan over *all* the intervals that
are read of the chain never goes astray.  Where nothing else is read of the chain, that is if
sUSDp was deployed within five minutes of the first deployment, and otherwise not at all
(`allTimeYpo_complete_iff`).
-/

namespace UsdpIndexer

open KeyedTable SelectFirst StableOrder FailingFold GaplessWindows

/-! ## Intervals without a gap -/

namespace YieldRange

variable {options : YieldRange}

/-- The two ends of an interval. -/
def window (interval : YieldInterval) : ℤ × ℤ := (interval.windowStart, interval.windowEnd)

/-- What is read besides the windows does not touch the range, and none of the windows is read
as invalid. -/
structure Undisturbed (options : YieldRange) (windows : List (ℤ × ℤ)) : Prop where
  only : ∀ interval ∈ options.intervals, options.Eligible interval → window interval ∈ windows
  valid : ∀ interval ∈ options.intervals, window interval ∈ windows →
    interval.reconciliationStatus ≠ .invalid

/-- The intervals are windows without a gap that go up to the end of the range at least. -/
structure GaplessTo (options : YieldRange) (deployed : ℤ) (windows : List (ℤ × ℤ)) : Prop
    extends options.Undisturbed windows where
  gapless : ∃ final ≥ options.rangeEnd, Gapless deployed windows final
  stored : ∀ w ∈ windows, ∃ interval ∈ options.intervals, window interval = w

/-- From the end of an interval the range can be finished: the interval that contains the time
one tolerance later carries on. -/
theorem GaplessTo.canFinish {deployed : ℤ} {windows : List (ℤ × ℤ)}
    (tiled : options.GaplessTo deployed windows) (tolerance : 0 ≤ options.tolerance)
    {interval : YieldInterval} (mem : interval ∈ options.intervals)
    (eligible : options.Eligible interval)
    (short : interval.windowEnd < options.rangeEnd - options.tolerance) :
    options.CanFinish interval.windowEnd := by
  obtain ⟨final, reaches, gapless⟩ := tiled.gapless
  induction distance : (options.rangeEnd - interval.windowEnd).toNat using Nat.strong_induction_on
    generalizing interval with
  | _ distance ih =>
      have ends := tiled.only interval mem eligible
      have bounds := gapless.bounds ends
      obtain ⟨-, after, -⟩ := eligible
      simp only [window] at bounds
      obtain ⟨w, listed, before, beyond⟩ :=
        @Gapless.exists_containing _ _ _ _ (interval.windowEnd + options.tolerance) _ gapless
          (by omega) (by omega)
      obtain ⟨next, mem', rfl⟩ := tiled.stored w listed
      have valid := tiled.valid next mem' listed
      simp only [window] at before beyond
      have apart : interval.windowEnd ≤ next.windowStart :=
        gapless.snd_le_fst ends listed (by simp only [window]; omega)
      have carries : options.CarriesOn interval.windowEnd next :=
        ⟨mem', ⟨valid, by omega, by omega⟩, abs_le.mpr ⟨by omega, by omega⟩, beyond⟩
      by_cases through : next.windowEnd ≥ options.rangeEnd - options.tolerance
      · exact .last carries through
      · exact .more carries (ih _ (by omega) mem' carries.eligible (by omega) rfl)

/-- **Intervals without a gap are complete** as soon as one of them carries on from the start of
the range. -/
theorem GaplessTo.neverAstray_iff {deployed : ℤ} {windows : List (ℤ × ℤ)}
    (tiled : options.GaplessTo deployed windows) (tolerance : 0 ≤ options.tolerance) :
    options.NeverAstray ↔ ∃ interval, options.CarriesOn options.rangeStart interval := by
  constructor
  · exact fun never => never.start.exists_carriesOn
  have onward {cursor : ℤ} {interval : YieldInterval} (carries : options.CarriesOn cursor interval)
      (short : ¬ interval.windowEnd ≥ options.rangeEnd - options.tolerance) :
      options.CanFinish interval.windowEnd :=
    tiled.canFinish tolerance carries.mem carries.eligible (not_le.mp short)
  rintro ⟨interval, carries⟩
  constructor
  · by_cases through : interval.windowEnd ≥ options.rangeEnd - options.tolerance
    · exact .last carries through
    · exact .more carries (onward carries through)
  · intro cursor next _ _ first
    by_cases through : next.windowEnd ≥ options.rangeEnd - options.tolerance
    · exact .inl through
    · exact .inr (onward first.toCarriesOn through)

end YieldRange

/-! ## Where the range meets the windows -/

/-- A window starts within the tolerance of the start of the range and inside the range, and goes
on for longer than the tolerance. -/
def MeetsStart (tolerance rangeStart rangeEnd : ℤ) (window : ℤ × ℤ) : Prop :=
  |window.1 - rangeStart| ≤ tolerance ∧ rangeStart + tolerance < window.2 ∧ window.1 < rangeEnd

theorem YieldRange.GaplessTo.carriesOn_iff {options : YieldRange} {deployed : ℤ}
    {windows : List (ℤ × ℤ)} (tiled : options.GaplessTo deployed windows) :
    (∃ interval, options.CarriesOn options.rangeStart interval) ↔
      ∃ window ∈ windows,
        MeetsStart options.tolerance options.rangeStart options.rangeEnd window := by
  constructor
  · rintro ⟨interval, carries⟩
    exact ⟨_, tiled.only interval carries.mem carries.eligible, carries.near, carries.beyond,
      carries.eligible.2.2⟩
  · rintro ⟨_, listed, near, beyond, inside⟩
    obtain ⟨interval, mem, rfl⟩ := tiled.stored _ listed
    have valid := tiled.valid interval mem listed
    have tolerance := (abs_nonneg _).trans near
    simp only [window] at near beyond inside
    exact ⟨interval, mem, ⟨valid, by omega, inside⟩, near, beyond⟩

/-- In a range that is longer than the tolerance, the windows meet the start if they begin within
the tolerance. -/
theorem meetsStart_iff_of_gapless {tolerance rangeStart rangeEnd deployed final : ℤ}
    {windows : List (ℤ × ℤ)} (gapless : Gapless deployed windows final)
    (reaches : rangeEnd ≤ final) (later : rangeStart ≤ deployed)
    (long : rangeStart + tolerance < rangeEnd) :
    (∃ window ∈ windows, MeetsStart tolerance rangeStart rangeEnd window) ↔
      deployed - rangeStart ≤ tolerance := by
  constructor
  · rintro ⟨window, listed, near, -⟩
    have bounds := gapless.bounds listed
    have := abs_le.mp near
    omega
  · intro soon
    obtain ⟨window, listed, before, beyond⟩ :=
      @Gapless.exists_containing _ _ _ _ (rangeStart + tolerance) _ gapless (by omega) (by omega)
    have bounds := gapless.bounds listed
    exact ⟨window, listed, abs_le.mpr ⟨by omega, by omega⟩, beyond, by omega⟩

/-! ## What is stored of a chain -/

/-- The earlier of the two deployments, if both are known. -/
def lifetimeActivityFromBlock (adapter : SavingsChainAdapter) : Except JsError ℤ :=
  match adapter.usdp.deploymentBlock, adapter.susdp.deploymentBlock with
  | some usdpBlock, some susdpBlock =>
      .ok (if usdpBlock < susdpBlock then usdpBlock else susdpBlock)
  | _, _ => .error ⟨s!"Missing lifetime deployment boundary for {adapter.chainName}"⟩

namespace RangeDatabase

variable (db : RangeDatabase)

/-- The history of an asset that reaches furthest. -/
def furthestHistory (chainId : ℕ) (assetId : ParallelAssetId) : Option RangeCoverageRow :=
  first RangeCoverageRow.furthestFirst
    (db.completeHistories.filter (·.asset = toLex (chainId, assetId.rank)))

/-- **A chain that has been indexed from its first deployment on**, with verified yields among
its stored ones that leave no gap from the deployment of sUSDp up to a time at least.  The
blocks of the chain have the times that `time` says. -/
structure LifetimeStored (adapter : SavingsChainAdapter) (time : ℤ → ℤ)
    (firstBlock susdpBlock stop : ℤ) (windows : List (ℤ × ℤ)) : Prop where
  begins : lifetimeActivityFromBlock adapter = .ok firstBlock
  deployed : adapter.susdp.deploymentBlock = some susdpBlock
  times : ∀ block ∈ db.index.blocks, block.chainId = adapter.chainId →
    1000 * block.timestamp = time block.number
  history : ∃ row, db.furthestHistory adapter.chainId .susdp = some row ∧
    row.sourceFromBlock = firstBlock
  gapless : ∃ final ≥ stop, Gapless (time susdpBlock) windows final
  stored : ∀ window ∈ windows, ∃ row ∈ db.yields, row.2.chainId = adapter.chainId ∧
    row.2.reconciliationStatus = .verified ∧ (row.2.windowStart, row.2.windowEnd) = window

/-- What is read of the yields of a chain for a range that starts at a time: of each window the
row that was created last, whatever its status. -/
def yieldRange (now : ℤ) (request : AnalyticsRangeRequest) (chainId : ℕ) (rangeStart : ℤ) :
    YieldRange where
  intervals := (db.yieldIntervals request.chainIds).filter (·.chainId = chainId)
  rangeStart := rangeStart
  rangeEnd := db.rangeEnd now request
  toleranceMilliseconds := none

variable {db} {now : ℤ} {request : AnalyticsRangeRequest} {adapter : SavingsChainAdapter}

/-! ### The history of an asset -/

theorem asset_eq_iff {row : RangeCoverageRow} {chainId : ℕ} {assetId : ParallelAssetId} :
    row.asset = toLex (chainId, assetId.rank) ↔ row.chainId = chainId ∧ row.assetId = assetId := by
  rw [RangeCoverageRow.asset, toLex_inj, Prod.mk.injEq]
  refine and_congr_right fun _ => ⟨fun same => ?_, fun same => by rw [same]⟩
  revert same
  cases row.assetId <;> cases assetId <;> decide

/-- What a request finds of an asset is the history that reaches furthest, if it asks for it. -/
theorem coverageOf_eq (chainId : ℕ) (assetId : ParallelAssetId) :
    db.coverageOf request chainId assetId =
      if chainId ∈ request.chainIds ∧ assetId ∈ request.assetIds then
        db.furthestHistory chainId assetId
      else none := by
  rw [coverageOf, coverageByKey, requestedCoverage, latestCoverage, find?_reverse_distinctOn,
    List.filter_filter]
  by_cases asked : chainId ∈ request.chainIds ∧ assetId ∈ request.assetIds
  · rw [if_pos asked, furthestHistory]
    congr 1
    refine List.filter_congr fun row _ => ?_
    by_cases same : row.asset = toLex (chainId, assetId.rank)
    · obtain ⟨rfl, rfl⟩ := asset_eq_iff.mp same
      simp [asked]
    · simp [same]
  · rw [if_neg asked, first_eq_none_iff, List.filter_eq_nil_iff]
    intro row _ kept
    simp only [Bool.and_eq_true, decide_eq_true_eq] at kept
    obtain ⟨rfl, rfl⟩ := asset_eq_iff.mp kept.1
    exact asked kept.2

/-- A history starts with its first block. -/
theorem coverageStart_of_furthestHistory {chainId : ℕ} {assetId : ParallelAssetId}
    {row : RangeCoverageRow} (found : db.furthestHistory chainId assetId = some row) :
    db.blockTime chainId row.sourceFromBlock = some row.coverageStart := by
  obtain ⟨mem, same⟩ := List.mem_filter.mp (mem_of_first found)
  obtain ⟨rfl, rfl⟩ := asset_eq_iff.mp (of_decide_eq_true same)
  obtain ⟨aggregate, -, joined⟩ := List.mem_filterMap.mp mem
  simp only [coverageRow?, Option.bind_eq_bind, Option.bind_eq_some_iff] at joined
  obtain ⟨coverageStart, start, coverageEnd, -, built⟩ := joined
  obtain rfl := Option.some.inj built
  exact start

/-! ### The stored yields -/

theorem mem_yieldIntervals {chainIds : List ℕ} {interval : YieldInterval}
    (mem : interval ∈ db.yieldIntervals chainIds) :
    ∃ row ∈ db.yields, yieldInterval row = interval := by
  obtain ⟨row, selected, rfl⟩ := List.mem_map.mp mem
  exact ⟨row, (List.mem_filter.mp (mem_of_mem_distinctOn selected)).1, rfl⟩

/-- Of every window that is stored an interval is read. -/
theorem exists_mem_yieldIntervals {chainIds : List ℕ} {row : ℕ × SavingsYieldInterval}
    (mem : row ∈ db.yields) (asked : row.2.chainId ∈ chainIds) :
    ∃ interval ∈ db.yieldIntervals chainIds, interval.chainId = row.2.chainId ∧
      YieldRange.window interval = (row.2.windowStart, row.2.windowEnd) := by
  have kept : row ∈ db.yields.filter fun row => row.2.chainId ∈ chainIds :=
    List.mem_filter.mpr ⟨mem, decide_eq_true asked⟩
  obtain ⟨selected, inside, same⟩ :=
    @exists_mem_distinctOn _ _ _ yieldWindow (fun a b => b.2.createdAt - a.2.createdAt) _ row kept
  simp only [yieldWindow, toLex_inj, Prod.mk.injEq] at same
  obtain ⟨chain, start, stop⟩ := same
  refine ⟨yieldInterval selected, List.mem_map_of_mem inside, chain, ?_⟩
  rw [YieldRange.window, yieldInterval, start, stop]

/-! ## The yield of all time -/

/-- The windows of a chain that are stored without a gap are read so. -/
theorem LifetimeStored.gaplessTo {time : ℤ → ℤ} {firstBlock susdpBlock rangeStart : ℤ}
    {windows : List (ℤ × ℤ)} (requested : adapter.chainId ∈ request.chainIds)
    (stored : db.LifetimeStored adapter time firstBlock susdpBlock (db.rangeEnd now request)
      windows)
    (undisturbed : (db.yieldRange now request adapter.chainId rangeStart).Undisturbed windows) :
    (db.yieldRange now request adapter.chainId rangeStart).GaplessTo (time susdpBlock)
      windows := by
  refine ⟨undisturbed, stored.gapless, fun window listed => ?_⟩
  obtain ⟨row, mem, chain, -, rfl⟩ := stored.stored window listed
  obtain ⟨interval, inside, same, windows⟩ :=
    @exists_mem_yieldIntervals db request.chainIds row mem (chain ▸ requested)
  exact ⟨interval, List.mem_filter.mpr ⟨inside, decide_eq_true (same.trans chain)⟩, windows⟩

/-- Without a shared start, the yield starts with the first deployment if sUSDp is asked for, and
otherwise not at all. -/
theorem LifetimeStored.ypoStart {time : ℤ → ℤ} {firstBlock susdpBlock stop : ℤ}
    {windows : List (ℤ × ℤ)} (requested : adapter.chainId ∈ request.chainIds)
    (stored : db.LifetimeStored adapter time firstBlock susdpBlock stop windows)
    (unshared : db.sharedRangeStart now request = none) :
    db.ypoStart now request adapter.chainId =
      if .susdp ∈ request.assetIds then some (time firstBlock) else none := by
  obtain ⟨row, found, rfl⟩ := stored.history
  rw [RangeDatabase.ypoStart, unshared, Option.none_or, coverageOf_eq]
  by_cases asked : .susdp ∈ request.assetIds
  · obtain ⟨block, looked, time⟩ :=
      Option.map_eq_some_iff.mp (coverageStart_of_furthestHistory found)
    have key := key_eq_of_lookup BlockRow.key looked
    rw [if_pos ⟨requested, asked⟩, if_pos asked, found, Option.map_some, ← time]
    simp only [BlockRow.key, Prod.mk.injEq] at key
    rw [stored.times block (mem_of_lookup BlockRow.key looked) key.1, key.2]
  · rw [if_neg fun both => asked both.2, if_neg asked, Option.map_none]

end RangeDatabase

open RangeDatabase

/-- Five minutes. -/
def yieldTolerance : ℤ := 5 * 60000

theorem chainYpo_complete_iff {db : RangeDatabase} {now : ℤ} {request : AnalyticsRangeRequest}
    {adapter : SavingsChainAdapter} {time : ℤ → ℤ} {firstBlock susdpBlock stop : ℤ}
    {windows : List (ℤ × ℤ)} (requested : adapter.chainId ∈ request.chainIds)
    (stored : db.LifetimeStored adapter time firstBlock susdpBlock stop windows)
    (unshared : db.sharedRangeStart now request = none) :
    (db.chainYpo now request adapter.chainId).complete = true ↔ .susdp ∈ request.assetIds ∧
      (db.yieldRange now request adapter.chainId (time firstBlock)).NeverAstray := by
  rw [chainYpo, stored.ypoStart requested unshared]
  by_cases asked : .susdp ∈ request.assetIds
  · rw [if_pos asked, and_iff_right asked]
    exact YieldRange.complete_iff_neverAstray _
  · rw [if_neg asked]
    exact iff_of_false Bool.false_ne_true fun both => asked both.1

/-- The scan does not go astray among windows without a gap exactly if one of them meets the
start of the range. -/
theorem RangeDatabase.LifetimeStored.neverAstray_iff {db : RangeDatabase} {now : ℤ}
    {request : AnalyticsRangeRequest} {adapter : SavingsChainAdapter} {time : ℤ → ℤ}
    {firstBlock susdpBlock rangeStart : ℤ} {windows : List (ℤ × ℤ)}
    (requested : adapter.chainId ∈ request.chainIds)
    (stored : db.LifetimeStored adapter time firstBlock susdpBlock (db.rangeEnd now request)
      windows)
    (undisturbed : (db.yieldRange now request adapter.chainId rangeStart).Undisturbed windows) :
    (db.yieldRange now request adapter.chainId rangeStart).NeverAstray ↔
      ∃ window ∈ windows,
        MeetsStart yieldTolerance rangeStart (db.rangeEnd now request) window := by
  have tiled := stored.gaplessTo requested undisturbed
  have nonneg : 0 ≤ yieldTolerance := by decide
  exact (tiled.neverAstray_iff nonneg).trans tiled.carriesOn_iff

/-- **When the yield of all time is complete.**  A chain is indexed from its first deployment on,
and verified yields are stored of it without a gap from the deployment of sUSDp to the end of
the range.  Then its yield is complete exactly if sUSDp is asked for and the scan over what is
read of the chain never goes astray.  Where nothing else that is read touches the range, that is
if one of the windows starts within five minutes of the first deployment and goes on for longer;
in a range of more than five minutes, if sUSDp was deployed within five minutes of the first
deployment. -/
theorem allTimeYpo_complete_iff {db : RangeDatabase} {now : ℤ} {request : AnalyticsRangeRequest}
    {adapter : SavingsChainAdapter} {time : ℤ → ℤ} {firstBlock susdpBlock : ℤ}
    {windows : List (ℤ × ℤ)} (preset : request.preset = .all) (unbounded : request.from? = none)
    (registered : ∀ chainId ∈ request.chainIds, chainId ∈ savingsChainIds)
    (requested : adapter.chainId ∈ request.chainIds) (readable : db.EventsReadable)
    (stored : db.LifetimeStored adapter time firstBlock susdpBlock (db.rangeEnd now request)
      windows) :
    ∃ result, readRangeAnalytics db now request = .ok result ∧
      (∃ chain ∈ result.chains, chain.chainId = adapter.chainId) ∧
      ∀ chain ∈ result.chains, chain.chainId = adapter.chainId →
        (chain.ypo.complete = true ↔ .susdp ∈ request.assetIds ∧
          (db.yieldRange now request adapter.chainId (time firstBlock)).NeverAstray) ∧
        ((db.yieldRange now request adapter.chainId (time firstBlock)).Undisturbed windows →
          (chain.ypo.complete = true ↔ .susdp ∈ request.assetIds ∧ ∃ window ∈ windows,
            MeetsStart yieldTolerance (time firstBlock) (db.rangeEnd now request) window) ∧
          (time firstBlock ≤ time susdpBlock →
            time firstBlock + yieldTolerance < db.rangeEnd now request →
            (chain.ypo.complete = true ↔ .susdp ∈ request.assetIds ∧
              time susdpBlock - time firstBlock ≤ yieldTolerance))) := by
  have unshared : db.sharedRangeStart now request = none := by
    rw [sharedRangeStart, unbounded, preset]
    rfl
  have valid : db.StartIsDate now request := by
    rw [StartIsDate, unshared]
    exact fun _ none => by cases none
  obtain ⟨result, run⟩ := exists_readRangeAnalytics readable valid registered
  obtain ⟨chains, ypo⟩ := chains_of_readRangeAnalytics run
  refine ⟨result, run, List.mem_map.mp (chains ▸ requested), ?_⟩
  intro chain mem same
  have complete := chainYpo_complete_iff requested stored unshared
  rw [ypo chain mem, same]
  refine ⟨complete, fun undisturbed => ?_⟩
  have meets := complete.trans
    (and_congr_right fun _ => stored.neverAstray_iff requested undisturbed)
  refine ⟨meets, fun later long => meets.trans (and_congr_right fun _ => ?_)⟩
  obtain ⟨final, reaches, gapless⟩ := stored.gapless
  exact meetsStart_iff_of_gapless gapless reaches later long

/-! ### Base

Its two deployments are 1046610 blocks apart, which is 24 days of blocks of two seconds. -/

/-- The adapter of Base. -/
def baseAdapter : SavingsChainAdapter := savingsChainAdapters.get ⟨1, by decide⟩

/-- The times of the two deployments and of the last block, in milliseconds. -/
def baseTime (deployedAt : ℤ) (block : ℤ) : ℤ :=
  if block = 31200853 then 1749191053000
  else if block = 32247463 then 1000 * deployedAt
  else 1784171669000

/-- The activity of the vault over the whole range. -/
def baseHistory : AssetActivityRow where
  chainId := 8453
  activity := ⟨.susdp, 1749191053000, 1784171669000, 0, 0, 0, 0, 0, 0, 0, 0, 0⟩
  sourceScope := "parallel-assets-base-lifetime-v1"
  sourceFromBlock := 31200853
  sourceToBlock := 48691161
  historyComplete := true
  manifestVersion := "base-usdp-susdp-state-v1-candidate"
  calculationVersion := HOLDER_CALCULATION_VERSION

/-- A yield of Base from the deployment of sUSDp on. -/
def baseYield (deployedAt : ℤ) (calculationVersion : String) (status : ReconciliationStatus)
    (createdAt : ℤ) : SavingsYieldInterval where
  chainId := 8453
  startSnapshotId := 1
  endSnapshotId := 2
  fromBlock := 32247463
  toBlock := 48691161
  windowStart := 1000 * deployedAt
  windowEnd := 1784171669000
  accruedInterest := 500
  pendingYieldAtStart := 0
  pendingYieldAtEnd := 0
  nativeYpo := 500
  coverageScope := "parallel-assets-base-lifetime-v1"
  windowConvention := SAVINGS_YPO_WINDOW_CONVENTION
  reconciliationStatus := status
  manifestVersion := "base-usdp-susdp-state-v1-candidate"
  calculationVersion := calculationVersion
  createdAt := createdAt

/-- A hash of its own for every number of eight digits. -/
def baseHash (number : ℕ) : String :=
  "0x" ++ String.ofList (List.replicate 56 '0') ++ toString number

/-- Base, indexed from the deployment of USDp on, with the yield from that of sUSDp: a row under
an older version that was left unreconciled, and a verified one. -/
def baseLifetime (deployedAt : ℤ) : RangeDatabase where
  index := { Database.empty with
    blocks := [⟨8453, 31200853, baseHash 31200853, baseHash 31200852, 1749191053, true⟩,
      ⟨8453, 48691161, baseHash 48691161, baseHash 48691160, 1784171669, true⟩] }
  balances := []
  activity := [⟨baseHistory, 0⟩]
  yields := [(1, baseYield deployedAt "parallel-savings-native-ypo-v0" .candidate 0),
    (2, baseYield deployedAt SAVINGS_YPO_CALCULATION_VERSION .verified 60000)]

/-- Everything of Base that there is. -/
def allTimeRequest : AnalyticsRangeRequest := ⟨.all, [8453], [.usdp, .susdp], none, none, none⟩

theorem lifetimeStored_base {deployedAt : ℤ} (before : deployedAt < 1784171669) :
    (baseLifetime deployedAt).LifetimeStored baseAdapter (baseTime deployedAt) 31200853 32247463
      ((baseLifetime deployedAt).rangeEnd 0 allTimeRequest)
      [(1000 * deployedAt, 1784171669000)] where
  begins := by decide
  deployed := by decide
  times := by
    intro block mem
    rcases List.mem_pair.mp mem with rfl | rfl <;> exact fun _ => rfl
  history := ⟨_, rfl, rfl⟩
  gapless := by
    have lt : 1000 * deployedAt < 1784171669000 := by omega
    exact ⟨1784171669000, le_rfl, .cons lt .nil⟩
  stored := by
    intro window mem
    obtain rfl := List.mem_singleton.mp mem
    exact ⟨(2, baseYield deployedAt SAVINGS_YPO_CALCULATION_VERSION .verified 60000),
      by simp [baseLifetime], rfl, rfl, rfl⟩

/-- Nothing but the yield from the deployment of sUSDp on is read. -/
theorem undisturbed_base (deployedAt rangeStart : ℤ) :
    ((baseLifetime deployedAt).yieldRange 0 allTimeRequest 8453 rangeStart).Undisturbed
      [(1000 * deployedAt, 1784171669000)] := by
  have each {interval : YieldInterval} (mem : interval ∈
      ((baseLifetime deployedAt).yieldRange 0 allTimeRequest 8453 rangeStart).intervals) :
      interval.reconciliationStatus ≠ .invalid ∧
        YieldRange.window interval = (1000 * deployedAt, 1784171669000) := by
    obtain ⟨row, stored, rfl⟩ := mem_yieldIntervals (List.mem_filter.mp mem).1
    rcases List.mem_pair.mp stored with rfl | rfl
    · exact ⟨by simp [yieldInterval, baseYield], rfl⟩
    · exact ⟨by simp [yieldInterval, baseYield], rfl⟩
  exact ⟨fun _ mem _ => List.mem_singleton.mpr (each mem).2, fun _ mem _ => (each mem).1⟩

theorem eventsReadable_base (deployedAt : ℤ) : (baseLifetime deployedAt).EventsReadable :=
  fun _ mem => absurd mem List.not_mem_nil

/-- If sUSDp were deployed a minute after USDp, the yield would be complete. -/
theorem allTimeYpo_complete_iff_minute :
    ∃ result, readRangeAnalytics (baseLifetime 1749191113) 0 allTimeRequest = .ok result ∧
      (∃ chain ∈ result.chains, chain.chainId = baseAdapter.chainId) ∧
      ∀ chain ∈ result.chains, chain.chainId = baseAdapter.chainId →
        chain.ypo.complete = true := by
  obtain ⟨result, run, reported, complete⟩ :=
    allTimeYpo_complete_iff rfl rfl (by decide) (by decide) (eventsReadable_base 1749191113)
      (lifetimeStored_base (by decide))
  exact ⟨result, run, reported, fun chain mem same =>
    (((complete chain mem same).2 (undisturbed_base _ _)).2 (by decide) (by decide)).mpr
      (by decide)⟩

/-- **The yield of all time of Base is never complete.** -/
theorem allTimeYpo_incomplete_base :
    ¬ ∀ (db : RangeDatabase) (now : ℤ) (request : AnalyticsRangeRequest)
        (adapter : SavingsChainAdapter) (time : ℤ → ℤ) (firstBlock susdpBlock : ℤ)
        (windows : List (ℤ × ℤ)),
        request.preset = .all → request.from? = none →
        (∀ chainId ∈ request.chainIds, chainId ∈ savingsChainIds) →
        adapter.chainId ∈ request.chainIds → db.EventsReadable →
        db.LifetimeStored adapter time firstBlock susdpBlock (db.rangeEnd now request) windows →
        ∃ result, readRangeAnalytics db now request = .ok result ∧
          ∃ chain ∈ result.chains, chain.chainId = adapter.chainId ∧ chain.ypo.complete = true := by
  intro reachable
  have stored := @lifetimeStored_base 1751284273 (by decide)
  obtain ⟨result, run, chain, mem, same, complete⟩ :=
    reachable _ 0 allTimeRequest _ _ _ _ _ rfl rfl (by decide) (by decide)
      (eventsReadable_base 1751284273) stored
  rw [(chains_of_readRangeAnalytics run).2 chain mem, same,
    chainYpo_complete_iff (by decide) stored rfl,
    stored.neverAstray_iff (by decide) (undisturbed_base _ _)] at complete
  obtain ⟨-, window, listed, near, -⟩ := complete
  obtain rfl := List.mem_singleton.mp listed
  revert near
  decide

end UsdpIndexer
