import UsdpIndexer.Integration.Stablewatch
import UsdpIndexer.Library.FailingFold

/-!
# What the payload says under partial coverage

A global snapshot that leaves out a chain is a partial sum.  The 24-chain supply has a
gate for that, `globalUsdpCoverageComplete`; the metrics of the savings chains have none:
they ask whether there is an amount and whether it is stale.  So they are withheld only
where the amounts are missing or stale (`partial_coverage_withheld_iff`).
-/

namespace UsdpIndexer

open FailingFold

/-- The snapshot includes fewer chains than are expected. -/
def GlobalSavingsInput.IncompleteCoverage (global : GlobalSavingsInput) : Prop :=
  ∃ coverage included expected, global.coverage = some coverage ∧
    coverage.includedChainCount = some included ∧
    coverage.expectedChainCount = some expected ∧ included < expected

/-- The metrics of the payload that are sums and means over the savings chains. -/
def StablewatchPayload.savingsMetrics (payload : StablewatchPayload) : List MetricValue :=
  [payload.marketRow.tvlUsdp, payload.marketRow.tvlUsdEstimate, payload.marketRow.estimatedApy,
    payload.headline.tvlUsdp, payload.headline.tvlUsdEstimate, payload.headline.estimatedApy,
    payload.usdpSupply.onSavingsChains]

/-- None of them is available, and the payload calls itself partial. -/
structure StablewatchPayload.WithholdsSavings (payload : StablewatchPayload) : Prop where
  withheld : ∀ metric ∈ payload.savingsMetrics, metric.availability ≠ .available
  status : payload.status = "partial"

/-- The supply is missing, the rate is missing or stale, and one of the two gates of the
status is closed. -/
structure StablewatchPayloadInput.LeavesSavingsOut (input : StablewatchPayloadInput) : Prop where
  supply : present (input.global.usdp.bind (·.supplyOnSavingsChains)) = none
  rate : present (input.global.susdp.bind (·.weightedEstimatedApy)) = none ∨
    input.currentStale = true
  status : input.history.globalVerified = false ∨ input.globalUsdpCoverageComplete = false

/-! ## When a metric is available -/

section Metrics

variable {input : StablewatchPayloadInput}

theorem onSavingsChains_available :
    input.onSavingsChains.availability = .available
      ↔ present (input.global.usdp.bind (·.supplyOnSavingsChains)) ≠ none := by
  unfold StablewatchPayloadInput.onSavingsChains
  split <;> simp_all

theorem estimatedApy_available :
    input.estimatedApy.availability = .available
      ↔ present (input.global.susdp.bind (·.weightedEstimatedApy)) ≠ none ∧
        input.currentStale = false := by
  unfold StablewatchPayloadInput.estimatedApy
  rw [availability_staleMetricIf]
  split <;> simp_all

/-- Without the supply on the savings chains the total assets are not available either. -/
theorem availableTotalAssets_eq_none
    (missing : present (input.global.usdp.bind (·.supplyOnSavingsChains)) = none) :
    input.availableTotalAssets = none := by
  unfold StablewatchPayloadInput.availableTotalAssets
  cases present (input.global.susdp.bind (·.totalAssetsUsdp)) with
  | none => rfl
  | some totalAssetsUsdp =>
      show (present (input.global.usdp.bind (·.supplyOnSavingsChains))).bind _ = none
      rw [missing]
      rfl

theorem tvlUsdp_not_available (missing : input.availableTotalAssets = none) :
    input.tvlUsdp.availability ≠ .available := by
  unfold StablewatchPayloadInput.tvlUsdp
  rw [missing, Ne, availability_staleMetricIf]
  simp

theorem tvlUsdEstimate_not_available {metric : MetricValue}
    (missing : input.availableTotalAssets = none) (result : input.tvlUsdEstimate = .ok metric) :
    metric.availability ≠ .available := by
  unfold StablewatchPayloadInput.tvlUsdEstimate at result
  rw [missing] at result
  obtain ⟨estimate, unavailable, rfl⟩ := map_eq_ok.mp result
  cases unavailable
  rw [Ne, availability_staleMetricIf]
  simp

end Metrics

/-- What a payload has been built of. -/
theorem buildStablewatchAssetPayload_eq_ok {input : StablewatchPayloadInput}
    {payload : StablewatchPayload} (built : buildStablewatchAssetPayload input = .ok payload) :
    input.tvlUsdEstimate = .ok payload.marketRow.tvlUsdEstimate ∧
      input.chainBreakdown = .ok payload.chainBreakdown ∧
      payload.marketRow.tvlUsdp = input.tvlUsdp ∧
      payload.savingsMetrics = [input.tvlUsdp, payload.marketRow.tvlUsdEstimate,
        input.estimatedApy, input.tvlUsdp, payload.marketRow.tvlUsdEstimate, input.estimatedApy,
        input.onSavingsChains] ∧
      payload.status = if input.history.globalVerified && input.globalUsdpCoverageComplete
        then "candidate" else "partial" := by
  obtain ⟨estimate, estimated, built⟩ := bind_eq_ok.mp built
  obtain ⟨allTime, -, built⟩ := bind_eq_ok.mp built
  obtain ⟨breakdown, rows, built⟩ := bind_eq_ok.mp built
  cases built
  exact ⟨estimated, rows, rfl, rfl, rfl⟩

theorem chainRow_eq_ok {input : StablewatchPayloadInput} {component : GlobalSavingsComponentInput}
    {row : ChainBreakdownRow} (result : input.chainRow component = .ok row) :
    row.susdpTotalAssets = component.susdpTotalAssets ∧
      input.chainTvlUsd component = .ok row.susdpTvlUsdEstimate := by
  obtain ⟨estimate, estimated, result⟩ := bind_eq_ok.mp result
  cases result
  exact ⟨rfl, estimated⟩

/-! ## When partial coverage shows -/

/-- **A partial sum is withheld exactly where it is missing or stale**: the coverage of the
snapshot plays no part in it. -/
theorem partial_coverage_withheld_iff (input : StablewatchPayloadInput)
    (payload : StablewatchPayload) (built : buildStablewatchAssetPayload input = .ok payload) :
    input.global.IncompleteCoverage →
      (payload.WithholdsSavings ↔ input.LeavesSavingsOut) := by
  intro _
  obtain ⟨estimated, -, -, metrics, status⟩ := buildStablewatchAssetPayload_eq_ok built
  constructor
  · intro withholds
    have withheld := withholds.withheld
    rw [metrics] at withheld
    refine ⟨?_, ?_, ?_⟩
    · by_contra there
      exact withheld input.onSavingsChains (by simp) (onSavingsChains_available.mpr there)
    · by_contra! shown
      refine withheld input.estimatedApy (by simp) (estimatedApy_available.mpr ⟨shown.1, ?_⟩)
      exact Bool.eq_false_iff.mpr shown.2
    · have partly := withholds.status
      rw [status] at partly
      rw [← Bool.and_eq_false_iff]
      by_contra opened
      rw [if_pos (by simpa using opened)] at partly
      exact absurd partly (by decide)
  · rintro ⟨supply, rate, gates⟩
    have missing := availableTotalAssets_eq_none supply
    refine ⟨?_, ?_⟩
    · have apy : input.estimatedApy.availability ≠ .available := by
        rw [Ne, estimatedApy_available]
        rintro ⟨there, fresh⟩
        rcases rate with absent | stale
        · exact there absent
        · rw [fresh] at stale
          cases stale
      have onChains : input.onSavingsChains.availability ≠ .available := fun available =>
        onSavingsChains_available.mp available supply
      rw [metrics]
      simp only [List.forall_mem_cons, List.not_mem_nil, false_implies, implies_true, and_true]
      have tvl := tvlUsdp_not_available missing
      have estimate := tvlUsdEstimate_not_available missing estimated
      exact ⟨tvl, estimate, apy, tvl, estimate, apy, onChains⟩
    · rw [status, if_neg]
      rw [Bool.and_eq_true]
      rintro ⟨verified, complete⟩
      rcases gates with closed | closed
      · rw [verified] at closed
        cases closed
      · rw [complete] at closed
        cases closed

/-- Three chains of five, fresh, beside a complete history and a complete supply. -/
def threeOfFive : StablewatchPayloadInput where
  global := {
    status := "partial"
    asOf := some "2026-07-16T00:00:00.000Z"
    freshness := some ⟨some false, some 60, some 3600⟩
    coverage := some ⟨some 5, some 3, none, some [1, 8453, 146], some [999], some [43114]⟩
    usdp := some ⟨some "900"⟩
    susdp := some ⟨some "600", some "50000000000000000"⟩
    components := some []
    calculationVersion := some "parallel-global-savings-state-v1-candidate" }
  globalUsdp := some {
    status := "complete"
    asOf := some "2026-07-16T00:00:00.000Z"
    accountingStatus := some "candidate"
    candidateTotalSupply := some "2000"
    verifiedTotalSupply := none
    stale := some false
    coverage := some ⟨some 24, some 24, none, some [], some [], some []⟩
    calculationVersion := some "parallel-global-usdp-supply-v1-candidate" }
  history := {
    status := "complete"
    chains := some []
    global := some ⟨"2026-07-15T00:00:00.000Z", "complete", "7", [], [],
      "parallel-global-savings-native-ypo-v1-candidate"⟩ }
  lifetime := []
  prices := ⟨none, some ⟨"1000000000000000000", 18, "DIA", false⟩, none⟩
  generatedAt := "2026-07-16T00:01:00.000Z"

/-- All seven metrics are available, and the status is the same as under full coverage. -/
theorem threeOfFive_shown :
    (buildStablewatchAssetPayload threeOfFive).toOption.map
        (fun payload => (payload.savingsMetrics.map (·.availability), payload.status))
      = some (List.replicate 7 .available, "candidate") := by
  decide +kernel

/-- The gates are open and the metrics are there. -/
theorem partial_coverage_withheld_iff_threeOfFive :
    ∃ payload, buildStablewatchAssetPayload threeOfFive = .ok payload ∧
      (payload.WithholdsSavings ↔ threeOfFive.LeavesSavingsOut) := by
  cases built : buildStablewatchAssetPayload threeOfFive with
  | error error =>
      have shown := threeOfFive_shown
      rw [built] at shown
      cases shown
  | ok payload =>
      exact ⟨payload, rfl, partial_coverage_withheld_iff threeOfFive payload built
        ⟨_, 3, 5, rfl, rfl, rfl, by decide⟩⟩

/-- Three chains of five are presented like all five. -/
theorem partial_coverage_presented_as_complete :
    ¬ ∀ (input : StablewatchPayloadInput) (payload : StablewatchPayload),
      input.global.IncompleteCoverage → buildStablewatchAssetPayload input = .ok payload →
        payload.WithholdsSavings := by
  intro all
  have shown := threeOfFive_shown
  cases built : buildStablewatchAssetPayload threeOfFive with
  | error error =>
      rw [built] at shown
      cases shown
  | ok payload =>
      have withholds := all threeOfFive payload ⟨_, 3, 5, rfl, rfl, rfl, by decide⟩ built
      rw [built] at shown
      have status : payload.status = "candidate" :=
        congrArg Prod.snd (Option.some.inj shown)
      rw [withholds.status] at status
      exact absurd status (by decide)

end UsdpIndexer
