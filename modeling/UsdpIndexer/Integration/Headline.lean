import Mathlib.Algebra.BigOperators.Ring.Finset
import UsdpIndexer.Analytics.AnalyticsSystem
import UsdpIndexer.Integration.PartialCoverage

/-!
# Headline and breakdown

The total assets of the payload are a sum that `createGlobalSavingsSnapshot` has stored;
the rows of its breakdown are the snapshots that the sum is linked to, joined again by the
reader.  `SumTraced` says that a stored sum is the sum over its links, and no later call
undoes that.  So the headline is the sum of the breakdown, and its value in dollars, which
is rounded down once, is above the sum of the rounded values by less than their number
(`headline_equals_breakdown`).
-/

namespace UsdpIndexer

open Accounting IntegerText SerialTable SelectFirst StableOrder FailingFold

/-! ## The reading as an input -/

/-- The text of a status in its column. -/
def CoverageStatus.text : CoverageStatus → String
  | .complete => "complete"
  | .partially => "partial"
  | .unavailable => "unavailable"

/-- The word for a status in the payload. -/
def SnapshotStatus.text : SnapshotStatus → String
  | .candidate => "candidate"
  | .verified => "verified"
  | .invalid => "invalid"

/-- The word for the status of a reading: that of its coverage unless it is stale. -/
def ReadStatus.text : ReadStatus → String
  | .stale => "stale"
  | .coverage status => status.text

/-- One of the `components` that `readLatestGlobalSavings` returns. -/
def SavingsSnapshotJoin.input (row : SavingsSnapshotJoin) : GlobalSavingsComponentInput where
  chainId := row.snapshot.chainId
  chainSlug := ((savingsChainAdapters.find? (·.chainId = row.snapshot.chainId)).map
    (·.chainSlug)).getD "unknown"
  blockNumber := toString row.snapshot.blockNumber
  blockHash := row.snapshot.blockHash
  blockTimestamp := toISOString row.snapshot.blockTimestamp
  status := row.snapshot.snapshotStatus.text
  usdpTotalSupply := toString (row.usdpTotalSupply : ℤ)
  susdpTotalAssets := toString (row.snapshot.susdpTotalAssets : ℤ)
  susdpActualAssets := toString (row.snapshot.susdpActualAssets : ℤ)
  susdpPendingYield := toString (row.snapshot.susdpPendingYield : ℤ)
  susdpTotalSupply := toString (row.susdpTotalSupply : ℤ)
  susdpSharePriceUsdp := toString (row.snapshot.susdpSharePriceUsdp : ℤ)
  susdpEstimatedApy := toString (row.snapshot.susdpEstimatedApy : ℤ)
  susdpPauseState := row.snapshot.susdpPauseState
  assetRelationshipVerified := row.snapshot.assetRelationshipVerified
  manifestVersion := row.snapshot.manifestVersion
  calculationVersion := row.snapshot.calculationVersion

/-- What `readLatestGlobalSavings` hands to the payload. -/
def GlobalSavingsReading.input (reading : GlobalSavingsReading) : GlobalSavingsInput where
  status := reading.status.text
  asOf := some (toISOString reading.snapshot.asOf)
  freshness := some ⟨some reading.stale, reading.currentMaximumAgeSeconds,
    some reading.maximumAllowedAgeSeconds⟩
  coverage := some ⟨some reading.snapshot.expectedChainCount,
    some reading.snapshot.includedChainCount, some savingsChainIds,
    some reading.snapshot.includedChainIds, some reading.snapshot.missingChainIds,
    some reading.snapshot.staleChainIds⟩
  usdp := some ⟨some (toString reading.snapshot.usdpSupplyOnSavingsChains)⟩
  susdp := some ⟨some (toString reading.snapshot.susdpTotalAssets),
    reading.snapshot.susdpWeightedEstimatedApy.map toString⟩
  components := some (reading.components.map (·.input))
  calculationVersion := some reading.snapshot.calculationVersion

/-! ## Sums and their links -/

/-- The foreign keys of the tables that a global sum is read from. -/
structure AnalyticsDatabase.SavingsReferences (db : AnalyticsDatabase) : Prop where
  assets : ∀ row ∈ db.savingsSnapshots.values, ∃ us ss,
    db.assetSnapshots.find? row.usdpSnapshotId = some us ∧
    db.assetSnapshots.find? row.susdpSnapshotId = some ss
  snapshots : ∀ link ∈ db.globalSavingsComponents, ∃ row,
    db.savingsSnapshots.find? link.savingsSnapshotId = some row
  sums : ∀ link ∈ db.globalSavingsComponents, ∃ row,
    db.globalSavings.find? link.globalSnapshotId = some row

/-- The assets of the snapshot that a link points to. -/
def AnalyticsDatabase.linkedAssets (db : AnalyticsDatabase)
    (link : GlobalSavingsSnapshotComponent) : ℕ :=
  ((db.savingsSnapshots.find? link.savingsSnapshotId).map (·.susdpTotalAssets)).getD 0

/-- The sum under a number is the sum over its links. -/
def AnalyticsDatabase.SumTraced (db : AnalyticsDatabase) (globalSnapshotId : ℕ) : Prop :=
  ∃ row, db.globalSavings.find? globalSnapshotId = some row ∧
    row.susdpTotalAssets = (((db.globalSavingsComponents.filter
      (·.globalSnapshotId = globalSnapshotId)).map db.linkedAssets).sum : ℕ)

theorem SavingsReferences.empty : AnalyticsDatabase.empty.SavingsReferences where
  assets := fun _ mem => absurd mem List.not_mem_nil
  snapshots := fun _ mem => absurd mem List.not_mem_nil
  sums := fun _ mem => absurd mem List.not_mem_nil

/-- A component of a sum is one of the stored snapshots. -/
theorem AnalyticsDatabase.find?_of_mem_included {db : AnalyticsDatabase} {maximumAgeSeconds : ℤ}
    {component : SavingsAggregationComponent}
    (mem : component ∈ (db.savingsAggregate maximumAgeSeconds).included) :
    ∃ row, db.savingsSnapshots.find? component.snapshotId = some row ∧
      component.susdpTotalAssets = row.susdpTotalAssets := by
  obtain ⟨latest, chosen, rfl⟩ := List.mem_map.mp (List.mem_filter.mp mem).1
  obtain ⟨stored, inside, joined⟩ := List.mem_filterMap.mp (mem_of_mem_distinctOn chosen)
  have found := find?_eq_some_iff.mpr (List.mem_filter.mp inside).1
  unfold AnalyticsDatabase.joinAssets at joined
  simp only [Option.bind_eq_bind, Option.bind_eq_some_iff] at joined
  obtain ⟨us, -, ss, -, same⟩ := joined
  cases same
  exact ⟨stored.2, found, rfl⟩

/-! ## What the calls leave alone -/

theorem AnalyticsDatabase.SavingsReferences.effect {db db' : AnalyticsDatabase}
    {call : AnalyticsCall} (effect : Effect db call db') (references : db.SavingsReferences) :
    db'.SavingsReferences := by
  cases effect with
  | supplies _ blocks assetDeployments assetSnapshots supplyEvidence kept grows =>
      refine ⟨?_, references.snapshots, references.sums⟩
      intro row mem
      obtain ⟨us, ss, usdp, susdp⟩ := references.assets row mem
      exact ⟨us, ss, grows usdp, grows susdp⟩
  | globalSupply _ blocks assetDeployments assetSnapshots supplyEvidence sum links kept grows =>
      refine ⟨?_, references.snapshots, references.sums⟩
      intro row mem
      obtain ⟨us, ss, usdp, susdp⟩ := references.assets row mem
      exact ⟨us, ss, grows usdp, grows susdp⟩
  | savingsSnapshot options blocks assetSnapshots row us ss kept grows usdp susdp pending =>
      refine ⟨?_, ?_, references.sums⟩
      · intro other mem
        rcases mem_values_insertOrSelect mem with old | rfl
        · obtain ⟨us, ss, usdp, susdp⟩ := references.assets other old
          exact ⟨us, ss, grows usdp, grows susdp⟩
        · exact ⟨us, ss, usdp, susdp⟩
      · intro link mem
        obtain ⟨other, found⟩ := references.snapshots link mem
        exact ⟨other, extends_insertOrSelect _ _ _ found⟩
  | globalSavings maximumAgeSeconds =>
      refine ⟨references.assets, ?_, ?_⟩
      · intro link mem
        rcases List.mem_append.mp mem with old | new
        · exact references.snapshots link old
        · obtain ⟨component, included, rfl⟩ := List.mem_map.mp new
          obtain ⟨row, found, -⟩ := db.find?_of_mem_included included
          exact ⟨row, found⟩
      · intro link mem
        rcases List.mem_append.mp mem with old | new
        · obtain ⟨row, found⟩ := references.sums link old
          exact ⟨row, find?_insert_of_find? found _⟩
        · obtain ⟨component, -, rfl⟩ := List.mem_map.mp new
          exact ⟨_, find?_insert_self _ _⟩
  | _ => exact ⟨references.assets, references.snapshots, references.sums⟩

/-- The calls of the analytics keep the foreign keys. -/
theorem savingsReferences_run (viem : Viem) (keccak256 : String → String)
    (calls : List TimedCall) : (analyticsRun viem keccak256 calls .empty).SavingsReferences :=
  analyticsRun_invariant AnalyticsDatabase.SavingsReferences
    (fun _ references => ⟨references.assets, references.snapshots, references.sums⟩)
    (fun effect => .effect effect) calls SavingsReferences.empty

/-- A sum that is traced stays so. -/
theorem AnalyticsDatabase.SumTraced.effect {db db' : AnalyticsDatabase} {call : AnalyticsCall}
    {globalSnapshotId : ℕ} (effect : Effect db call db') (references : db.SavingsReferences)
    (traced : db.SumTraced globalSnapshotId) : db'.SumTraced globalSnapshotId := by
  cases effect with
  | savingsSnapshot options blocks assetSnapshots row us ss kept grows usdp susdp pending =>
      obtain ⟨sum, found, same⟩ := traced
      refine ⟨sum, found, ?_⟩
      rw [same]
      congr 2
      apply List.map_congr_left
      intro link mem
      -- the snapshot of a link stays where it is
      obtain ⟨other, stored⟩ := references.snapshots link (List.mem_filter.mp mem).1
      have stays := extends_insertOrSelect SavingsChainSnapshot.key db.savingsSnapshots row stored
      simp only [AnalyticsDatabase.linkedAssets, stored, stays]
  | globalSavings maximumAgeSeconds =>
      obtain ⟨sum, found, same⟩ := traced
      refine ⟨sum, find?_insert_of_find? found _, ?_⟩
      -- the new links are those of another sum
      have other : globalSnapshotId ≠ db.globalSavings.next :=
        Nat.ne_of_lt (lt_next_of_find? found)
      have dropped : (((db.savingsAggregate maximumAgeSeconds).included.map fun component =>
          (⟨db.globalSavings.next, component.snapshotId, component.chainId⟩ :
            GlobalSavingsSnapshotComponent)).filter
              (·.globalSnapshotId = globalSnapshotId)) = [] := by
        rw [List.filter_eq_nil_iff]
        intro link mem
        obtain ⟨component, -, rfl⟩ := List.mem_map.mp mem
        simpa using other.symm
      unfold createGlobalSavingsSnapshot
      simp only [List.filter_append, dropped, List.append_nil]
      exact same
  | _ => exact traced

/-- The sum that has just been stored is traced. -/
theorem sumTraced_createGlobalSavingsSnapshot {db : AnalyticsDatabase}
    (references : db.SavingsReferences) (maximumAgeSeconds : ℤ) :
    (createGlobalSavingsSnapshot maximumAgeSeconds db).2.SumTraced
      (createGlobalSavingsSnapshot maximumAgeSeconds db).1.1 := by
  refine ⟨_, find?_insert_self _ _, ?_⟩
  -- the number is new, so the links of the sum are those that were written with it
  have old : db.globalSavingsComponents.filter (·.globalSnapshotId = db.globalSavings.next)
      = [] := by
    rw [List.filter_eq_nil_iff]
    intro link mem
    obtain ⟨row, found⟩ := references.sums link mem
    simpa using Nat.ne_of_lt (lt_next_of_find? found)
  have new : ((db.savingsAggregate maximumAgeSeconds).included.map fun component =>
      (⟨db.globalSavings.next, component.snapshotId, component.chainId⟩ :
        GlobalSavingsSnapshotComponent)).filter (·.globalSnapshotId = db.globalSavings.next)
      = (db.savingsAggregate maximumAgeSeconds).included.map fun component =>
        ⟨db.globalSavings.next, component.snapshotId, component.chainId⟩ := by
    rw [List.filter_eq_self]
    intro link mem
    obtain ⟨component, -, rfl⟩ := List.mem_map.mp mem
    simp
  show ((db.savingsAggregate maximumAgeSeconds).included.map (·.susdpTotalAssets)).sum = _
  unfold createGlobalSavingsSnapshot
  simp only [List.filter_append, old, new, List.nil_append, List.map_map]
  rw [Nat.cast_list_sum, List.map_map]
  congr 1
  apply List.map_congr_left
  intro component mem
  obtain ⟨row, found, same⟩ := db.find?_of_mem_included mem
  simp only [Function.comp_apply, AnalyticsDatabase.linkedAssets, found, Option.map_some,
    Option.getD_some, same]

/-- **A stored sum is the sum over its links ever after.** -/
theorem sumTraced_run {viem : Viem} {keccak256 : String → String} {db : AnalyticsDatabase}
    (references : db.SavingsReferences) (maximumAgeSeconds : ℤ) (calls : List TimedCall) :
    (analyticsRun viem keccak256 calls
        (createGlobalSavingsSnapshot maximumAgeSeconds db).2).SavingsReferences ∧
      (analyticsRun viem keccak256 calls
        (createGlobalSavingsSnapshot maximumAgeSeconds db).2).SumTraced
          (createGlobalSavingsSnapshot maximumAgeSeconds db).1.1 := by
  refine analyticsRun_invariant
    (fun db' => db'.SavingsReferences ∧
      db'.SumTraced (createGlobalSavingsSnapshot maximumAgeSeconds db).1.1)
    (fun _ holds => ⟨⟨holds.1.assets, holds.1.snapshots, holds.1.sums⟩, holds.2⟩)
    (fun effect holds => ⟨holds.1.effect effect, holds.2.effect effect holds.1⟩) calls
    ⟨references.effect (.globalSavings maximumAgeSeconds), ?_⟩
  exact sumTraced_createGlobalSavingsSnapshot references maximumAgeSeconds

/-- The rows that a sum is read back with add up to it. -/
theorem AnalyticsDatabase.SumTraced.sum_linkedSavings {db : AnalyticsDatabase}
    {globalSnapshotId : ℕ} {row : GlobalSavingsSnapshot} (references : db.SavingsReferences)
    (traced : db.SumTraced globalSnapshotId)
    (stored : db.globalSavings.find? globalSnapshotId = some row) :
    row.susdpTotalAssets
      = (((db.linkedSavings globalSnapshotId).map (·.snapshot.susdpTotalAssets)).sum : ℕ) := by
  obtain ⟨sum, found, same⟩ := traced
  obtain rfl := Option.some.inj (stored.symm.trans found)
  rw [same]
  congr 1
  unfold AnalyticsDatabase.linkedSavings
  rw [((perm_sortBy _ _).map _).sum_eq]
  -- no link is lost in the joins
  have joined : ∀ links : List GlobalSavingsSnapshotComponent,
      (∀ link ∈ links, link ∈ db.globalSavingsComponents) →
      (links.map db.linkedAssets).sum = ((links.filterMap fun link => do
        let snapshot ← db.savingsSnapshots.find? link.savingsSnapshotId
        db.joinAssets link.savingsSnapshotId snapshot).map (·.snapshot.susdpTotalAssets)).sum := by
    intro links inside
    induction links with
    | nil => rfl
    | cons link links ih =>
        obtain ⟨snapshot, kept⟩ := references.snapshots link (inside link List.mem_cons_self)
        obtain ⟨us, ss, usdp, susdp⟩ := references.assets snapshot (mem_values_of_find? kept)
        have join : db.joinAssets link.savingsSnapshotId snapshot
            = some ⟨link.savingsSnapshotId, snapshot, us.totalSupply, ss.totalSupply⟩ := by
          unfold AnalyticsDatabase.joinAssets
          rw [usdp, susdp]
          rfl
        have rest := ih fun other mem => inside other (List.mem_cons_of_mem _ mem)
        simp only [List.map_cons, List.sum_cons, List.filterMap_cons, kept, join, rest,
          Option.bind_eq_bind, Option.bind_some, AnalyticsDatabase.linkedAssets, Option.map_some,
          Option.getD_some]
  exact joined _ fun link mem => (List.mem_filter.mp mem).1

/-! ## The amounts of the payload -/

/-- The amount that a metric states. -/
def MetricValue.amount (metric : MetricValue) : Option ℤ := metric.value.bind parseInteger

/-- The assets of the vault of a row, as a number. -/
def ChainBreakdownRow.assets (row : ChainBreakdownRow) : Option ℤ :=
  parseInteger row.susdpTotalAssets

/-- An amount in dollars is the product with the price, rounded down. -/
theorem multiplyByUsdPrice_toString (amount price : ℕ) {decimals : ℤ} (nonneg : 0 ≤ decimals) :
    multiplyByUsdPrice (toString (amount : ℤ)) (toString (price : ℤ)) decimals
      = .ok (toString ((amount * price / 10 ^ decimals.toNat : ℕ) : ℤ)) := by
  unfold multiplyByUsdPrice bigInt
  rw [parseInteger_toString, parseInteger_toString]
  show (if decimals < 0 then _ else _) = _
  rw [if_neg (by omega)]
  have floor : ((amount : ℤ) * price).tdiv (10 ^ decimals.toNat)
      = ((amount * price / 10 ^ decimals.toNat : ℕ) : ℤ) := by
    push_cast
    rw [Int.tdiv_eq_ediv_of_nonneg
      (Int.mul_nonneg (Int.natCast_nonneg amount) (Int.natCast_nonneg price))]
  show Except.ok (toString (((amount : ℤ) * price).tdiv (10 ^ decimals.toNat))) = _
  rw [floor]

/-- The value of a chain, at a price that is there. -/
theorem chainTvlUsd_amount {input : StablewatchPayloadInput} {row : SavingsSnapshotJoin}
    {metric : MetricValue} {price : ℕ} {decimals : ℤ} {source : String} {stale : Bool}
    (priced : input.prices.usdp = some ⟨toString (price : ℤ), decimals, source, stale⟩)
    (nonneg : 0 ≤ decimals) (result : input.chainTvlUsd row.input = .ok metric) :
    metric.amount
      = some ((row.snapshot.susdpTotalAssets * price / 10 ^ decimals.toNat : ℕ) : ℤ) := by
  unfold StablewatchPayloadInput.chainTvlUsd at result
  rw [priced] at result
  obtain ⟨value, product, result⟩ := bind_eq_ok.mp result
  cases result
  have same := product.symm.trans
    (multiplyByUsdPrice_toString row.snapshot.susdpTotalAssets price nonneg)
  obtain rfl := Except.ok.inj same
  rw [MetricValue.amount, value_staleMetricIf, value_availableMetric]
  exact parseInteger_toString _

/-- Amounts that can be read in one order can be read in another, with the same sum. -/
theorem exists_amounts_of_perm {α β : Type} {sorted rows : List β} {components : List α}
    {read : β → Option ℤ} {amount : α → ℤ} (perm : sorted.Perm rows)
    (amounts : rows.map read = components.map fun component => some (amount component)) :
    ∃ values : List ℤ, sorted.map read = values.map some ∧
      values.sum = (components.map amount).sum := by
  refine ⟨sorted.map fun row => (read row).getD 0, ?_, ?_⟩
  · rw [List.map_map]
    apply List.map_congr_left
    intro row mem
    have inside : read row ∈ rows.map read := List.mem_map_of_mem (perm.mem_iff.mp mem)
    rw [amounts] at inside
    obtain ⟨component, -, same⟩ := List.mem_map.mp inside
    simp [← same]
  · rw [(perm.map _).sum_eq]
    have values := congrArg (List.map fun value : Option ℤ => value.getD 0) amounts
    rw [List.map_map, List.map_map] at values
    exact congrArg List.sum values

/-! ## The headline -/

/-- What a payload states: the assets and the dollar values of its rows, the sum of the
assets as the headline, and the dollar value of the headline. -/
structure StablewatchPayload.States (payload : StablewatchPayload) (assets estimates : List ℤ)
    (estimate : ℤ) : Prop where
  rowAssets : payload.chainBreakdown.map (·.assets) = assets.map some
  rowEstimates : payload.chainBreakdown.map (·.susdpTvlUsdEstimate.amount) = estimates.map some
  tvlUsdp : payload.marketRow.tvlUsdp.value = some (toString assets.sum)
  tvlUsdEstimate : payload.marketRow.tvlUsdEstimate.amount = some estimate

/-- The rows of the breakdown, under a price. -/
theorem chainBreakdown_amounts {input : StablewatchPayloadInput}
    {components : List SavingsSnapshotJoin}
    {breakdown : List ChainBreakdownRow} {price : ℕ} {decimals : ℤ} {source : String} {stale : Bool}
    (rows : input.global.components = some (components.map (·.input)))
    (priced : input.prices.usdp = some ⟨toString (price : ℤ), decimals, source, stale⟩)
    (nonneg : 0 ≤ decimals) (result : input.chainBreakdown = .ok breakdown) :
    breakdown.length = components.length ∧
      (∃ assets : List ℤ, breakdown.map (·.assets) = assets.map some ∧
        assets.sum = (components.map fun row => (row.snapshot.susdpTotalAssets : ℤ)).sum) ∧
      ∃ estimates : List ℤ,
        breakdown.map (·.susdpTvlUsdEstimate.amount) = estimates.map some ∧
        estimates.sum = (components.map fun row =>
          ((row.snapshot.susdpTotalAssets * price / 10 ^ decimals.toNat : ℕ) : ℤ)).sum := by
  unfold StablewatchPayloadInput.chainBreakdown at result
  rw [rows, Option.getD_some, List.mapM_map] at result
  obtain ⟨unsorted, each, result⟩ := bind_eq_ok.mp result
  cases result
  have perm := perm_sortBy
    (fun left right : ChainBreakdownRow =>
      StablewatchPayloadInput.adapterIndex left.chainId
        - StablewatchPayloadInput.adapterIndex right.chainId) unsorted
  refine ⟨?_, exists_amounts_of_perm perm ?_, exists_amounts_of_perm perm ?_⟩
  · rw [perm.length_eq, ← (mapM_eq_ok.mp each).length_eq]
  · apply map_of_mapM_eq_ok each
    intro join row result
    rw [ChainBreakdownRow.assets, (chainRow_eq_ok result).1]
    exact parseInteger_toString _
  · apply map_of_mapM_eq_ok each
    intro join row result
    exact chainTvlUsd_amount priced nonneg (chainRow_eq_ok result).2

/-- The headline, under a price and over amounts that are there. -/
theorem headline_amounts {input : StablewatchPayloadInput} {payload : StablewatchPayload}
    {total price : ℕ} {decimals : ℤ} {source : String} {stale : Bool}
    (available : input.availableTotalAssets = some (toString (total : ℤ)))
    (priced : input.prices.usdp = some ⟨toString (price : ℤ), decimals, source, stale⟩)
    (nonneg : 0 ≤ decimals) (built : buildStablewatchAssetPayload input = .ok payload) :
    payload.marketRow.tvlUsdp.value = some (toString (total : ℤ)) ∧
      payload.marketRow.tvlUsdEstimate.amount
        = some ((total * price / 10 ^ decimals.toNat : ℕ) : ℤ) := by
  obtain ⟨estimated, -, tvl, -, -⟩ := buildStablewatchAssetPayload_eq_ok built
  constructor
  · rw [tvl, StablewatchPayloadInput.tvlUsdp, available, value_staleMetricIf,
      value_availableMetric]
  · have there : input.availablePrice
        = some ⟨toString (price : ℤ), decimals, source, stale⟩ := by
      rw [StablewatchPayloadInput.availablePrice, priced, Option.filter_some,
        if_pos (decide_eq_true (toString_ne_empty (price : ℤ)))]
    unfold StablewatchPayloadInput.tvlUsdEstimate at estimated
    rw [available, there] at estimated
    obtain ⟨metric, computed, same⟩ := map_eq_ok.mp estimated
    obtain ⟨value, product, computed⟩ := bind_eq_ok.mp computed
    cases computed
    obtain rfl := Except.ok.inj
      (product.symm.trans (multiplyByUsdPrice_toString total price nonneg))
    rw [← same, MetricValue.amount, value_staleMetricIf, value_availableMetric]
    exact parseInteger_toString _

/-- The reader finds the sum under the number that it returns. -/
theorem readLatestGlobalSavings_eq_some {db : AnalyticsDatabase} {now maximumAgeSeconds : ℤ}
    {reading : GlobalSavingsReading}
    (read : readLatestGlobalSavings now maximumAgeSeconds db = some reading) :
    db.globalSavings.find? reading.globalSnapshotId = some reading.snapshot ∧
      reading.components = db.linkedSavings reading.globalSnapshotId := by
  obtain ⟨latest, selected, rfl⟩ := Option.map_eq_some_iff.mp read
  exact ⟨find?_eq_some_iff.mpr (mem_of_first selected), rfl⟩

/-- **The headline is the sum of the breakdown**, and its dollar value, which is rounded
once, is above the sum of the rounded values of the rows by less than their number; where
there are no rows both are zero. -/
theorem headline_equals_breakdown (viem : Viem) (keccak256 : String → String)
    {db : AnalyticsDatabase} (references : db.SavingsReferences) (maximumAgeSeconds : ℤ)
    (calls : List TimedCall) {now maximumAllowedAgeSeconds : ℤ} {reading : GlobalSavingsReading}
    (read : readLatestGlobalSavings now maximumAllowedAgeSeconds
      (analyticsRun viem keccak256 calls (createGlobalSavingsSnapshot maximumAgeSeconds db).2)
        = some reading)
    (written : reading.globalSnapshotId = (createGlobalSavingsSnapshot maximumAgeSeconds db).1.1)
    {input : StablewatchPayloadInput} {payload : StablewatchPayload} {price : ℕ} {decimals : ℤ}
    {source : String} {stale : Bool} (global : input.global = reading.input)
    (priced : input.prices.usdp = some ⟨toString (price : ℤ), decimals, source, stale⟩)
    (nonneg : 0 ≤ decimals) (built : buildStablewatchAssetPayload input = .ok payload) :
    ∃ assets estimates estimate, payload.States assets estimates estimate ∧
      estimates.sum ≤ estimate ∧
      (payload.chainBreakdown ≠ [] →
        estimate < estimates.sum + payload.chainBreakdown.length) ∧
      (payload.chainBreakdown = [] → assets.sum = 0 ∧ estimate = 0) := by
  obtain ⟨stored, linked⟩ := readLatestGlobalSavings_eq_some read
  obtain ⟨kept, traced⟩ := @sumTraced_run viem keccak256 db references maximumAgeSeconds calls
  rw [← written] at traced
  have total := traced.sum_linkedSavings kept stored
  rw [← linked] at total
  have rows : input.global.components = some (reading.components.map (·.input)) := by
    rw [global]
    rfl
  have available : input.availableTotalAssets = some (toString
      (((reading.components.map (·.snapshot.susdpTotalAssets)).sum : ℕ) : ℤ)) := by
    unfold StablewatchPayloadInput.availableTotalAssets
    rw [global, ← total]
    show ((present (some (toString reading.snapshot.susdpTotalAssets))).bind fun totalAssets =>
      (present (some (toString reading.snapshot.usdpSupplyOnSavingsChains))).bind fun _ =>
        some totalAssets) = _
    rw [present_toString, present_toString]
    rfl
  obtain ⟨counted, ⟨assets, assetsRead, assetsSum⟩, estimates, estimatesRead, estimatesSum⟩ :=
    chainBreakdown_amounts rows priced nonneg (buildStablewatchAssetPayload_eq_ok built).2.1
  obtain ⟨tvl, estimated⟩ := headline_amounts available priced nonneg built
  -- the products whose quotients the rows state
  let products := reading.components.map fun row => row.snapshot.susdpTotalAssets * price
  have productsSum : products.sum
      = (reading.components.map (·.snapshot.susdpTotalAssets)).sum * price :=
    List.sum_map_mul_right _ _ _
  have quotients : estimates.sum = ((products.map (· / 10 ^ decimals.toNat)).sum : ℕ) := by
    rw [estimatesSum, Nat.cast_list_sum, List.map_map, List.map_map]
    rfl
  have assetsTotal : assets.sum
      = (((reading.components.map (·.snapshot.susdpTotalAssets)).sum : ℕ) : ℤ) := by
    rw [assetsSum, Nat.cast_list_sum, List.map_map]
    rfl
  refine ⟨assets, estimates, _, ⟨assetsRead, estimatesRead, ?_, estimated⟩, ?_, ?_, ?_⟩
  · rw [tvl, assetsTotal]
  · rw [quotients, ← productsSum]
    exact_mod_cast sum_div_le (10 ^ decimals.toNat) products
  · intro nonempty
    have filled : products ≠ [] := by
      intro empty
      have noComponents := List.map_eq_nil_iff.mp empty
      rw [noComponents] at counted
      exact nonempty (List.length_eq_zero_iff.mp counted)
    have bound := div_sum_lt (10 ^ decimals.toNat) filled
    rw [List.length_map] at bound
    rw [quotients, ← productsSum, counted]
    exact_mod_cast bound
  · intro empty
    rw [empty] at counted
    have noComponents := List.length_eq_zero_iff.mp counted.symm
    rw [assetsTotal, noComponents]
    simp

/-- A payload of nothing but a reading and a price of half a dollar. -/
def pricedInput (reading : GlobalSavingsReading) : StablewatchPayloadInput where
  global := reading.input
  globalUsdp := none
  history := ⟨"unavailable", none, none⟩
  lifetime := []
  prices := ⟨none, some ⟨toString (5 : ℤ), 1, "DIA", false⟩, none⟩
  generatedAt := "1970-01-01T00:00:00.000Z"

/-- Store a sum, read it back and price it. -/
def pricedPayload (db : AnalyticsDatabase) :
    Option (GlobalSavingsReading × StablewatchPayload) := do
  let reading ← readLatestGlobalSavings 0 3600 (createGlobalSavingsSnapshot 3600 db).2
  let payload ← (buildStablewatchAssetPayload (pricedInput reading)).toOption
  return (reading, payload)

theorem pricedPayload_eq_some {db : AnalyticsDatabase} {reading : GlobalSavingsReading}
    {payload : StablewatchPayload} (result : pricedPayload db = some (reading, payload)) :
    readLatestGlobalSavings 0 3600 (createGlobalSavingsSnapshot 3600 db).2 = some reading ∧
      buildStablewatchAssetPayload (pricedInput reading) = .ok payload := by
  obtain ⟨reading', read, result⟩ := Option.bind_eq_some_iff.mp result
  obtain ⟨payload', built, result⟩ := Option.bind_eq_some_iff.mp result
  cases result
  cases outcome : buildStablewatchAssetPayload (pricedInput reading) with
  | error error =>
      rw [outcome] at built
      cases built
  | ok payload' =>
      rw [outcome] at built
      cases built
      exact ⟨read, rfl⟩

/-- A vault that holds one unit. -/
def oneUnitSnapshot (chainId : ℕ) : SavingsChainSnapshot where
  chainId := chainId
  blockNumber := 1
  blockHash := "0x01"
  blockTimestamp := 0
  usdpSnapshotId := 1
  susdpSnapshotId := 1
  susdpTotalAssets := 1
  susdpActualAssets := 1
  susdpPendingYield := 0
  susdpSharePriceUsdp := 1
  susdpRate := 0
  susdpLastUpdate := 0
  susdpEstimatedApy := 0
  susdpMaxRate := 0
  susdpPauseState := 0
  usdpImplementation := ZERO_ADDRESS
  susdpImplementation := ZERO_ADDRESS
  assetRelationshipVerified := true
  snapshotStatus := .candidate
  manifestVersion := "v1"
  calculationVersion := MULTICHAIN_STATE_CALCULATION_VERSION
  createdAt := 0

/-- Two such vaults. -/
def twoUnits : AnalyticsDatabase :=
  { AnalyticsDatabase.empty with
    assetSnapshots := SerialTable.empty.insert
      ⟨.usdp, 1, 1, "0x01", 0, 1, .candidate, "v1", MULTICHAIN_STATE_CALCULATION_VERSION⟩
    savingsSnapshots :=
      (SerialTable.empty.insert (oneUnitSnapshot 1)).insert (oneUnitSnapshot 8453) }

theorem twoUnits_references : twoUnits.SavingsReferences where
  assets := by
    intro row mem
    rcases List.mem_cons.mp mem with rfl | mem
    · exact ⟨_, _, rfl, rfl⟩
    · rw [List.mem_singleton.mp mem]
      exact ⟨_, _, rfl, rfl⟩
  snapshots := fun _ mem => absurd mem List.not_mem_nil
  sums := fun _ mem => absurd mem List.not_mem_nil

/-- Two halves are nothing each, and one together. -/
theorem headline_equals_breakdown_twoUnits :
    ∃ payload assets estimates estimate,
      StablewatchPayload.States payload assets estimates estimate ∧
      estimates.sum ≤ estimate ∧ payload.chainBreakdown.length = 2 ∧
      estimate < estimates.sum + payload.chainBreakdown.length := by
  have answer : (pricedPayload twoUnits).map (fun result =>
      (result.1.globalSnapshotId, result.2.chainBreakdown.length)) = some (1, 2) := by
    decide +kernel
  obtain ⟨⟨reading, payload⟩, result, figures⟩ := Option.map_eq_some_iff.mp answer
  obtain ⟨read, built⟩ := pricedPayload_eq_some result
  have two : payload.chainBreakdown.length = 2 := congrArg Prod.snd figures
  obtain ⟨assets, estimates, estimate, states, above, below, -⟩ :=
    headline_equals_breakdown ⟨fun _ _ _ => none, id⟩ id twoUnits_references 3600 [] read
      (congrArg Prod.fst figures) (rfl : (pricedInput reading).global = reading.input) rfl
      (by decide) built
  refine ⟨payload, assets, estimates, estimate, states, above, two, below ?_⟩
  intro empty
  rw [empty] at two
  cases two

/-- Where no chain is included, nothing is not less than nothing. -/
theorem headline_bound_fails_without_chains :
    ¬ ∀ (viem : Viem) (keccak256 : String → String) (db : AnalyticsDatabase),
      db.SavingsReferences → ∀ (maximumAgeSeconds : ℤ) (calls : List TimedCall)
        (now maximumAllowedAgeSeconds : ℤ) (reading : GlobalSavingsReading),
      readLatestGlobalSavings now maximumAllowedAgeSeconds
        (analyticsRun viem keccak256 calls (createGlobalSavingsSnapshot maximumAgeSeconds db).2)
          = some reading →
      reading.globalSnapshotId = (createGlobalSavingsSnapshot maximumAgeSeconds db).1.1 →
      ∀ (input : StablewatchPayloadInput) (payload : StablewatchPayload) (price : ℕ)
        (decimals : ℤ) (source : String) (stale : Bool), input.global = reading.input →
      input.prices.usdp = some ⟨toString (price : ℤ), decimals, source, stale⟩ →
      0 ≤ decimals → buildStablewatchAssetPayload input = .ok payload →
        ∃ assets estimates estimate, payload.States assets estimates estimate ∧
          estimates.sum ≤ estimate ∧
          estimate < estimates.sum + payload.chainBreakdown.length := by
  intro all
  have answer : (pricedPayload .empty).map (fun result =>
      (result.1.globalSnapshotId, result.2.chainBreakdown.length)) = some (1, 0) := by
    decide +kernel
  obtain ⟨⟨reading, payload⟩, result, figures⟩ := Option.map_eq_some_iff.mp answer
  obtain ⟨read, built⟩ := pricedPayload_eq_some result
  have noRows : payload.chainBreakdown.length = 0 := congrArg Prod.snd figures
  obtain ⟨assets, estimates, estimate, -, above, below⟩ :=
    all ⟨fun _ _ _ => none, id⟩ id .empty SavingsReferences.empty 3600 [] 0 3600 reading read
      (congrArg Prod.fst figures) (pricedInput reading) payload 5 1 "DIA" false rfl rfl
      (by decide) built
  rw [noRows] at below
  omega

end UsdpIndexer
