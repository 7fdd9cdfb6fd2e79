import UsdpIndexer.Integration.PartialCoverage

/-!
# What the payload says of a stale snapshot

A snapshot of the savings chains can be stale, and so can the price of USDp.  Each metric is
made stale by hand after it is computed, with the flags of what it is computed from.  Two
sites ask for too little: the supply on the savings chains asks for no flag, and the dollar
value of a chain only for that of the price.

`otherMetrics_eq` says that the other metrics do not depend on the snapshot, so the list of
those that do leaves none out.  `staleness_reaches_iff` says when the staleness reaches them.
-/

namespace UsdpIndexer

open StableOrder FailingFold

/-! ## What depends on what -/

namespace StablewatchPayload

variable (payload : StablewatchPayload)

/-- The metrics that are computed from the snapshot or its components. -/
def snapshotMetrics : List MetricValue :=
  payload.savingsMetrics ++ payload.chainBreakdown.map (·.susdpTvlUsdEstimate)

/-- The metrics that are computed from the price of USDp. -/
def usdEstimates : List MetricValue :=
  [payload.headline.usdpPriceUsd, payload.marketRow.tvlUsdEstimate,
    payload.headline.tvlUsdEstimate] ++ payload.chainBreakdown.map (·.susdpTvlUsdEstimate)

/-- The metrics outside the breakdown that are computed from other things than the snapshot. -/
def otherMetrics : List MetricValue :=
  [payload.marketRow.tvlSevenDayChange, payload.marketRow.realizedApySevenDay,
    payload.marketRow.realizedApyThirtyDay, payload.marketRow.ypoSevenDay,
    payload.marketRow.ypoThirtyDay, payload.marketRow.ypoNinetyDay, payload.marketRow.ypoAllTime,
    payload.headline.usdpPriceUsd, payload.headline.susdpMarketPriceUsd,
    payload.headline.ypoSevenDay, payload.headline.ypoAllTime, payload.usdpSupply.global]

/-- None of these metrics is available. -/
def NoneAvailable (metrics : List MetricValue) : Prop :=
  ∀ metric ∈ metrics, metric.availability ≠ .available

instance (metrics : List MetricValue) : Decidable (NoneAvailable metrics) :=
  inferInstanceAs (Decidable (∀ metric ∈ metrics, _))

end StablewatchPayload

open StablewatchPayload (NoneAvailable)

/-- Another snapshot changes nothing in them. -/
theorem otherMetrics_eq {input : StablewatchPayloadInput} {global : GlobalSavingsInput}
    {payload payload' : StablewatchPayload}
    (built : buildStablewatchAssetPayload input = .ok payload)
    (built' : buildStablewatchAssetPayload { input with global := global } = .ok payload') :
    payload'.otherMetrics = payload.otherMetrics := by
  obtain ⟨_, -, built⟩ := bind_eq_ok.mp built
  obtain ⟨allTime, lifetime, built⟩ := bind_eq_ok.mp built
  obtain ⟨_, -, built⟩ := bind_eq_ok.mp built
  obtain ⟨_, -, built'⟩ := bind_eq_ok.mp built'
  obtain ⟨allTime', lifetime', built'⟩ := bind_eq_ok.mp built'
  obtain ⟨_, -, built'⟩ := bind_eq_ok.mp built'
  obtain rfl : allTime' = allTime := Except.ok.inj (lifetime'.symm.trans lifetime)
  cases built
  cases built'
  rfl

/-! ## The sites -/

section Sites

variable {input : StablewatchPayloadInput}

theorem tvlUsdp_stale (stale : input.currentStale = true) :
    input.tvlUsdp.availability ≠ .available := by
  rw [StablewatchPayloadInput.tvlUsdp, Ne, availability_staleMetricIf, stale]
  simp

/-- The estimate asks for both flags. -/
theorem tvlUsdEstimate_stale {metric : MetricValue}
    (stale : input.currentStale = true ∨ input.priceStale = true)
    (result : input.tvlUsdEstimate = .ok metric) : metric.availability ≠ .available := by
  obtain ⟨estimate, -, rfl⟩ := map_eq_ok.mp result
  rw [Ne, availability_staleMetricIf, Bool.or_eq_true_iff.mpr stale]
  simp

theorem estimatedApy_stale (stale : input.currentStale = true) :
    input.estimatedApy.availability ≠ .available := by
  rw [Ne, estimatedApy_available, stale]
  simp

theorem usdpPriceUsd_stale {missing : String} (stale : input.priceStale = true) :
    (input.priceMetric input.prices.usdp missing).availability ≠ .available := by
  unfold StablewatchPayloadInput.priceStale at stale
  unfold StablewatchPayloadInput.priceMetric
  rw [Ne, availability_staleMetricIf]
  cases priced : input.prices.usdp with
  | none => simp
  | some price => simp_all

/-- The value of a chain asks for the flag of the price only. -/
theorem chainTvlUsd_available {component : GlobalSavingsComponentInput} {metric : MetricValue}
    (result : input.chainTvlUsd component = .ok metric) :
    metric.availability = .available ↔ input.priceStale = false := by
  unfold StablewatchPayloadInput.chainTvlUsd at result
  unfold StablewatchPayloadInput.priceStale
  cases priced : input.prices.usdp with
  | none =>
      rw [priced] at result
      cases result
      simp
  | some price =>
      rw [priced] at result
      obtain ⟨value, -, result⟩ := bind_eq_ok.mp result
      cases result
      rw [availability_staleMetricIf]
      simp

/-- There is a row for each component, and its value is available unless the price is stale. -/
theorem chainBreakdown_available {breakdown : List ChainBreakdownRow}
    (result : input.chainBreakdown = .ok breakdown) :
    breakdown.length = (input.global.components.getD []).length ∧
      ∀ row ∈ breakdown,
        row.susdpTvlUsdEstimate.availability = .available ↔ input.priceStale = false := by
  obtain ⟨rows, each, result⟩ := bind_eq_ok.mp result
  cases result
  have pointwise := mapM_eq_ok.mp each
  refine ⟨?_, fun row mem => ?_⟩
  · rw [(perm_sortBy _ _).length_eq, pointwise.length_eq]
  · have unsorted : row ∈ rows := (perm_sortBy _ _).mem_iff.mp mem
    obtain ⟨component, -, made⟩ := (mem_of_mapM_eq_ok each row).mp unsorted
    exact chainTvlUsd_available (chainRow_eq_ok made).2

end Sites

/-- The estimates of a payload. -/
theorem usdEstimates_eq {input : StablewatchPayloadInput} {payload : StablewatchPayload}
    (built : buildStablewatchAssetPayload input = .ok payload) :
    payload.usdEstimates
      = [input.priceMetric input.prices.usdp "usdp_usd_price_missing",
          payload.marketRow.tvlUsdEstimate, payload.marketRow.tvlUsdEstimate]
        ++ payload.chainBreakdown.map (·.susdpTvlUsdEstimate) := by
  obtain ⟨_, -, built⟩ := bind_eq_ok.mp built
  obtain ⟨_, -, built⟩ := bind_eq_ok.mp built
  obtain ⟨_, -, built⟩ := bind_eq_ok.mp built
  cases built
  rfl

/-! ## When staleness reaches them -/

section Reach

variable {input : StablewatchPayloadInput} {payload : StablewatchPayload}

/-- A stale price reaches every estimate. -/
theorem usdEstimates_stale (built : buildStablewatchAssetPayload input = .ok payload)
    (stale : input.priceStale = true) : NoneAvailable payload.usdEstimates := by
  obtain ⟨estimated, breakdown, -, -, -⟩ := buildStablewatchAssetPayload_eq_ok built
  have price : (input.priceMetric input.prices.usdp
      "usdp_usd_price_missing").availability ≠ .available := usdpPriceUsd_stale stale
  have estimate := tvlUsdEstimate_stale (.inr stale) estimated
  rw [NoneAvailable, usdEstimates_eq built, List.forall_mem_append]
  constructor
  · simp only [List.forall_mem_cons, List.not_mem_nil, false_implies, implies_true, and_true]
    exact ⟨price, estimate, estimate⟩
  · rw [List.forall_mem_map]
    intro row mem available
    rw [(chainBreakdown_available breakdown).2 row mem, stale] at available
    cases available

/-- A stale snapshot reaches the sums and means over the savings chains, but for the supply. -/
theorem savingsMetrics_stale_iff (built : buildStablewatchAssetPayload input = .ok payload)
    (stale : input.currentStale = true) :
    NoneAvailable payload.savingsMetrics
      ↔ present (input.global.usdp.bind (·.supplyOnSavingsChains)) = none := by
  obtain ⟨estimated, -, -, metrics, -⟩ := buildStablewatchAssetPayload_eq_ok built
  have tvl := tvlUsdp_stale stale
  have estimate := tvlUsdEstimate_stale (.inl stale) estimated
  have apy := estimatedApy_stale stale
  rw [NoneAvailable, metrics]
  simp only [List.forall_mem_cons, List.not_mem_nil, false_implies, implies_true, and_true]
  constructor
  · rintro ⟨-, -, -, -, -, -, onChains⟩
    by_contra there
    exact onChains (onSavingsChains_available.mpr there)
  · intro supply
    have onChains : input.onSavingsChains.availability ≠ .available := fun available =>
      onSavingsChains_available.mp available supply
    exact ⟨tvl, estimate, apy, tvl, estimate, apy, onChains⟩

/-- It reaches the values of the chains with the price only. -/
theorem chainTvlUsd_stale_iff (built : buildStablewatchAssetPayload input = .ok payload) :
    NoneAvailable (payload.chainBreakdown.map (·.susdpTvlUsdEstimate))
      ↔ input.global.components.getD [] = [] ∨ input.priceStale = true := by
  obtain ⟨-, breakdown, -, -, -⟩ := buildStablewatchAssetPayload_eq_ok built
  obtain ⟨length, rows⟩ := chainBreakdown_available breakdown
  rw [NoneAvailable, List.forall_mem_map, ← List.length_eq_zero_iff, ← length,
    List.length_eq_zero_iff]
  constructor
  · intro reached
    by_contra! shown
    obtain ⟨row, mem⟩ := List.exists_mem_of_ne_nil _ shown.1
    exact reached row mem ((rows row mem).mpr (Bool.eq_false_iff.mpr shown.2))
  · rintro (nothing | stale) row mem available
    · rw [nothing] at mem
      exact List.not_mem_nil mem
    · rw [rows row mem, stale] at available
      cases available

end Reach

/-- **Staleness reaches every metric but two.**  None of the metrics of a stale snapshot and
none of the estimates at a stale price is available, if and only if a stale snapshot comes
without a supply on the savings chains, and either without components or with a price that is
stale or missing. -/
theorem staleness_reaches_iff (input : StablewatchPayloadInput) (payload : StablewatchPayload)
    (built : buildStablewatchAssetPayload input = .ok payload) :
    ((input.currentStale = true → NoneAvailable payload.snapshotMetrics) ∧
      (input.priceStale = true → NoneAvailable payload.usdEstimates))
    ↔ (input.currentStale = true →
        present (input.global.usdp.bind (·.supplyOnSavingsChains)) = none ∧
          (input.global.components.getD [] = [] ∨ input.priceStale = true)) := by
  have snapshot (stale : input.currentStale = true) : NoneAvailable payload.snapshotMetrics
      ↔ present (input.global.usdp.bind (·.supplyOnSavingsChains)) = none ∧
        (input.global.components.getD [] = [] ∨ input.priceStale = true) := by
    rw [NoneAvailable, StablewatchPayload.snapshotMetrics, List.forall_mem_append]
    exact and_congr (savingsMetrics_stale_iff built stale) (chainTvlUsd_stale_iff built)
  constructor
  · rintro ⟨reaches, -⟩ stale
    exact (snapshot stale).mp (reaches stale)
  · intro withholds
    exact ⟨fun stale => (snapshot stale).mpr (withholds stale), usdEstimates_stale built⟩

/-- A snapshot that has gone stale, beside a price that has not. -/
def staleSavings (usdp : Option GlobalSavingsUsdp)
    (components : List GlobalSavingsComponentInput) : StablewatchPayloadInput :=
  { threeOfFive with
    global :=
      { threeOfFive.global with
        status := "stale"
        freshness := some ⟨some true, some 7200, some 3600⟩
        usdp := usdp
        components := some components } }

/-- A chain of a stale snapshot. -/
def staleComponent : GlobalSavingsComponentInput where
  chainId := 1
  chainSlug := "ethereum"
  blockNumber := "20000000"
  blockHash := "0x1"
  blockTimestamp := "2026-07-15T22:00:00.000Z"
  status := "candidate"
  usdpTotalSupply := "900"
  susdpTotalAssets := "600"
  susdpActualAssets := "590"
  susdpPendingYield := "10"
  susdpTotalSupply := "500"
  susdpSharePriceUsdp := "1200000000000000000"
  susdpEstimatedApy := "50000000000000000"
  susdpPauseState := 0
  assetRelationshipVerified := true
  manifestVersion := "v1"
  calculationVersion := "v1"

/-- The availability of the metrics of a stale snapshot that has a supply and a component. -/
theorem staleSavings_shown :
    (buildStablewatchAssetPayload (staleSavings (some ⟨some "900"⟩) [staleComponent])).toOption.map
        (fun payload => payload.snapshotMetrics.map (·.availability))
      = some [.stale, .stale, .stale, .stale, .stale, .stale, .available, .available] := by
  decide +kernel

/-- The same input with a price that has gone stale. -/
def atStalePrice (input : StablewatchPayloadInput) : StablewatchPayloadInput :=
  { input with prices := ⟨none, some ⟨"1000000000000000000", 18, "DIA", true⟩, none⟩ }

/-- There is a payload of a stale snapshot without components, of one with a component at a stale
price, and of a snapshot that has not gone stale at a stale price. -/
theorem staleSavings_built :
    (∃ payload, buildStablewatchAssetPayload (staleSavings none []) = .ok payload) ∧
    (∃ payload, buildStablewatchAssetPayload (atStalePrice (staleSavings none [staleComponent]))
      = .ok payload) ∧
    ∃ payload, buildStablewatchAssetPayload (atStalePrice threeOfFive) = .ok payload := by
  have built :
      (buildStablewatchAssetPayload (staleSavings none [])).map (fun _ => ()) = .ok () ∧
      (buildStablewatchAssetPayload (atStalePrice (staleSavings none [staleComponent]))).map
        (fun _ => ()) = .ok () ∧
      (buildStablewatchAssetPayload (atStalePrice threeOfFive)).map (fun _ => ()) = .ok () := by
    decide +kernel
  obtain ⟨payload, made, -⟩ := map_eq_ok.mp built.1
  obtain ⟨payload', made', -⟩ := map_eq_ok.mp built.2.1
  obtain ⟨payload'', made'', -⟩ := map_eq_ok.mp built.2.2
  exact ⟨⟨payload, made⟩, ⟨payload', made'⟩, payload'', made''⟩

/-- A stale snapshot with nothing to be shown, one whose component has no price that is current,
and a snapshot with a supply whose price has gone stale. -/
theorem staleness_reaches_iff_staleSavings :
    (∃ payload, buildStablewatchAssetPayload (staleSavings none []) = .ok payload ∧
      NoneAvailable payload.snapshotMetrics) ∧
    (∃ payload, buildStablewatchAssetPayload (atStalePrice (staleSavings none [staleComponent]))
        = .ok payload ∧
      NoneAvailable payload.snapshotMetrics ∧ NoneAvailable payload.usdEstimates) ∧
    ∃ payload, buildStablewatchAssetPayload (atStalePrice threeOfFive) = .ok payload ∧
      NoneAvailable payload.usdEstimates := by
  obtain ⟨⟨bare, bareBuilt⟩, ⟨priced, pricedBuilt⟩, current, currentBuilt⟩ := staleSavings_built
  have bareReached := (staleness_reaches_iff (staleSavings none []) bare bareBuilt).mpr
    fun _ => ⟨rfl, .inl rfl⟩
  have pricedReached := (staleness_reaches_iff (atStalePrice (staleSavings none [staleComponent]))
    priced pricedBuilt).mpr fun _ => ⟨rfl, .inr rfl⟩
  have currentReached := (staleness_reaches_iff (atStalePrice threeOfFive) current
    currentBuilt).mpr fun stale => absurd stale (by decide)
  exact ⟨⟨bare, bareBuilt, bareReached.1 (by decide)⟩,
    ⟨priced, pricedBuilt, pricedReached.1 (by decide), pricedReached.2 rfl⟩,
    current, currentBuilt, currentReached.2 rfl⟩

/-- The supply and the dollar value of the chain are shown as current. -/
theorem stale_presented_as_current :
    ¬ ∀ (input : StablewatchPayloadInput) (payload : StablewatchPayload),
      buildStablewatchAssetPayload input = .ok payload → input.currentStale = true →
        NoneAvailable payload.snapshotMetrics := by
  intro reaches
  have shown := staleSavings_shown
  cases built : buildStablewatchAssetPayload
      (staleSavings (some ⟨some "900"⟩) [staleComponent]) with
  | error error =>
      rw [built] at shown
      cases shown
  | ok payload =>
      rw [built] at shown
      have available : Availability.available
          ∈ payload.snapshotMetrics.map (·.availability) := by
        rw [show payload.snapshotMetrics.map (·.availability) = _ from Option.some.inj shown]
        decide
      obtain ⟨metric, mem, current⟩ := List.mem_map.mp available
      exact reaches _ payload built (by decide) metric mem current

end UsdpIndexer
