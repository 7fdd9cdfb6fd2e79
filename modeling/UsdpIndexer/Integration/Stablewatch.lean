import Mathlib.Algebra.Ring.Int.Defs
import UsdpIndexer.Library.IntegerText
import UsdpIndexer.Library.StableOrder
import UsdpIndexer.Protocol.Registry
import UsdpIndexer.Rpc.Errors

/-!
# The payload for StableWatch

`integration/stablewatch.ts`: four readings (of the savings chains, of the supply on all
chains, of the yield history and of the prices) and the lifetime rows of the dashboard
become one record of metrics.  A metric is available, stale or unavailable, and it is
candidate or verified.

Amounts and times are the texts that the source has, so an amount counts as missing where
JavaScript takes its text for false: where it is absent or empty, and not where it is
`"0"`.  The parts of the payload that are the same in every payload are left out.
-/

namespace UsdpIndexer

open IntegerText StableOrder

/-- Whether a metric has a value, and whether the value is of now. -/
inductive Availability
  | available
  | stale
  | unavailable
deriving DecidableEq, Repr

/-- How far the value of a metric has been checked. -/
inductive Verification
  | verified
  | candidate
  | notApplicable
deriving DecidableEq, Repr

/-- A metric of the payload: a value with its unit and where it is from, or why there is none. -/
structure MetricValue where
  availability : Availability
  verification : Verification
  value : Option String
  unit : String
  asOf : Option String
  reason : Option String
  calculationVersion : Option String
  attribution : Option String
deriving DecidableEq, Repr

/-! ## What comes in -/

/-- How old the components of a snapshot are, and how old they may be. -/
structure Freshness where
  stale : Option Bool
  currentMaximumAgeSeconds : Option ℤ
  maximumAllowedAgeSeconds : Option ℤ
deriving DecidableEq, Repr

/-- Which of the savings chains a snapshot has, as the reader of the snapshots states it. -/
structure SavingsCoverage where
  expectedChainCount : Option ℤ
  includedChainCount : Option ℤ
  expectedChainIds : Option (List ℕ)
  includedChainIds : Option (List ℕ)
  missingChainIds : Option (List ℕ)
  staleChainIds : Option (List ℕ)
deriving DecidableEq, Repr

/-- What a snapshot has of USDp. -/
structure GlobalSavingsUsdp where
  supplyOnSavingsChains : Option String
deriving DecidableEq, Repr

/-- What a snapshot has of sUSDp over all chains. -/
structure GlobalSavingsSusdp where
  totalAssetsUsdp : Option String
  weightedEstimatedApy : Option String
deriving DecidableEq, Repr

/-- One chain of a snapshot. -/
structure GlobalSavingsComponentInput where
  chainId : ℕ
  chainSlug : String
  blockNumber : String
  blockHash : String
  blockTimestamp : String
  status : String
  usdpTotalSupply : String
  susdpTotalAssets : String
  susdpActualAssets : String
  susdpPendingYield : String
  susdpTotalSupply : String
  susdpSharePriceUsdp : String
  susdpEstimatedApy : String
  susdpPauseState : ℤ
  assetRelationshipVerified : Bool
  manifestVersion : String
  calculationVersion : String
deriving DecidableEq, Repr

/-- What the reader of the global snapshot returns. -/
structure GlobalSavingsInput where
  status : String
  asOf : Option String
  freshness : Option Freshness
  coverage : Option SavingsCoverage
  usdp : Option GlobalSavingsUsdp
  susdp : Option GlobalSavingsSusdp
  components : Option (List GlobalSavingsComponentInput)
  calculationVersion : Option String
deriving DecidableEq, Repr

/-- The interval of one chain in the history. -/
structure HistoryChainInput where
  chainId : ℕ
  chainSlug : String
  fromBlock : String
  toBlock : String
  windowStart : String
  windowEnd : String
  nativeYpo : String
  coverageScope : String
  windowConvention : String
  reconciliationStatus : String
  calculationVersion : String
deriving DecidableEq, Repr

/-- The sum over the chains in the history. -/
structure HistoryGlobalInput where
  windowEnd : String
  coverageStatus : String
  nativeYpo : String
  missingChainIds : List ℕ
  unreconciledChainIds : List ℕ
  calculationVersion : String
deriving DecidableEq, Repr

/-- What the reader of the history returns. -/
structure HistoryInput where
  status : String
  chains : Option (List HistoryChainInput)
  global : Option HistoryGlobalInput
deriving DecidableEq, Repr

/-- A price in US dollars, with its decimals and its source. -/
structure PriceInput where
  priceUsdAtomic : String
  decimals : ℤ
  source : String
  stale : Bool
deriving DecidableEq, Repr

/-- `PricesInput`; the block timestamp is the text that `iso` makes of it. -/
structure PricesInput where
  blockTimestamp : Option String
  usdp : Option PriceInput
  susdp : Option PriceInput
deriving DecidableEq, Repr

/-- Which chains the global supply of USDp is summed over. -/
structure GlobalUsdpCoverage where
  expectedChainCount : Option ℤ
  includedChainCount : Option ℤ
  includedChainIds : Option (List ℕ)
  missingChainIds : Option (List ℕ)
  staleChainIds : Option (List ℕ)
  failedChainIds : Option (List ℕ)
deriving DecidableEq, Repr

/-- What the reader of the global supply of USDp returns. -/
structure GlobalUsdpSupplyInput where
  status : String
  asOf : Option String
  accountingStatus : Option String
  candidateTotalSupply : Option String
  verifiedTotalSupply : Option String
  stale : Option Bool
  coverage : Option GlobalUsdpCoverage
  calculationVersion : Option String
deriving DecidableEq, Repr

/-- The lifetime interval of one chain. -/
structure LifetimeYieldInput where
  windowStart : String
  windowEnd : String
  nativeYpo : String
  reconciliationStatus : String
deriving DecidableEq, Repr

/-- What is stored of one chain since its deployment. -/
structure LifetimeInput where
  chainId : ℕ
  chainSlug : String
  chainName : String
  lifetimeYield : Option LifetimeYieldInput
deriving DecidableEq, Repr

/-- What the payload is built from. -/
structure StablewatchPayloadInput where
  global : GlobalSavingsInput
  globalUsdp : Option GlobalUsdpSupplyInput
  history : HistoryInput
  lifetime : List LifetimeInput
  prices : PricesInput
  generatedAt : String
deriving DecidableEq, Repr

/-! ## Metrics -/

/-- The options of a metric that is available. -/
structure MetricOptions where
  verification : Verification
  asOf : Option String := none
  calculationVersion : Option String := none
  attribution : Option String := none

/-- A metric with a value. -/
def availableMetric (value unit : String) (options : MetricOptions) : MetricValue where
  availability := .available
  verification := options.verification
  value := some value
  unit := unit
  asOf := options.asOf
  reason := none
  calculationVersion := options.calculationVersion
  attribution := options.attribution

/-- `unavailableMetric` with its default verification, which every caller leaves. -/
def unavailableMetric (unit reason : String) : MetricValue where
  availability := .unavailable
  verification := .candidate
  value := none
  unit := unit
  asOf := none
  reason := some reason
  calculationVersion := none
  attribution := none

/-- A metric that was available is so no longer, and keeps its value. -/
def staleMetric (metric : MetricValue) : MetricValue :=
  if metric.availability = .available then
    { metric with
      availability := .stale
      reason := some "source_snapshot_stale" }
  else metric

/-- `if (stale) metric = staleMetric(metric)` -/
def staleMetricIf (stale : Bool) (metric : MetricValue) : MetricValue :=
  if stale then staleMetric metric else metric

@[simp] theorem availability_availableMetric (value unit : String) (options : MetricOptions) :
    (availableMetric value unit options).availability = .available := rfl

@[simp] theorem value_availableMetric (value unit : String) (options : MetricOptions) :
    (availableMetric value unit options).value = some value := rfl

@[simp] theorem availability_unavailableMetric (unit reason : String) :
    (unavailableMetric unit reason).availability = .unavailable := rfl

/-- A metric whose source is stale keeps its value. -/
@[simp] theorem value_staleMetricIf (stale : Bool) (metric : MetricValue) :
    (staleMetricIf stale metric).value = metric.value := by
  unfold staleMetricIf staleMetric
  split
  · split <;> rfl
  · rfl

/-- A metric is available after the check exactly if it was and its source is not stale. -/
@[simp] theorem availability_staleMetricIf (stale : Bool) (metric : MetricValue) :
    (staleMetricIf stale metric).availability = .available
      ↔ metric.availability = .available ∧ stale = false := by
  unfold staleMetricIf staleMetric
  cases stale with
  | false => simp
  | true =>
      rw [if_pos rfl]
      split
      · simp
      · rename_i other
        simp [other]

/-- A text that counts as true. -/
def present (text : Option String) : Option String := text.filter (· ≠ "")

/-- A number never counts as false, not even zero. -/
@[simp] theorem present_toString (n : ℤ) : present (some (toString n)) = some (toString n) := by
  rw [present, Option.filter_some, if_pos (decide_eq_true (toString_ne_empty n))]

/-- `BigInt(text)` -/
def bigInt (text : String) : Except JsError ℤ :=
  match parseInteger text with
  | some value => .ok value
  | none => .error ⟨s!"Cannot convert {text} to a BigInt"⟩

/-- An amount in US dollars, rounded toward zero; `BigInt` throws on what is no integer. -/
def multiplyByUsdPrice (tokenBaseUnits priceUsdAtomic : String) (priceDecimals : ℤ) :
    Except JsError String := do
  let amount ← bigInt tokenBaseUnits
  let price ← bigInt priceUsdAtomic
  if priceDecimals < 0 then .error ⟨"Exponent must be non-negative"⟩
  else return toString ((amount * price).tdiv (10 ^ priceDecimals.toNat))

/-! ## The parts of the payload -/

/-- `globalUsdpCoverageComplete`. -/
def GlobalUsdpCoverage.complete (coverage : GlobalUsdpCoverage) : Bool :=
  coverage.expectedChainCount.any (· ≠ 0) ∧
    coverage.includedChainCount = coverage.expectedChainCount ∧
    (coverage.missingChainIds.getD []).length = 0 ∧
    (coverage.staleChainIds.getD []).length = 0 ∧
    (coverage.failedChainIds.getD []).length = 0

/-- `globalHistoryVerified`. -/
def HistoryInput.globalVerified (history : HistoryInput) : Bool :=
  history.global.any fun global =>
    global.coverageStatus = "complete" ∧ global.missingChainIds.length = 0 ∧
      global.unreconciledChainIds.length = 0

/-- `verifiedLifetimeYieldComponents`: the chains with their yield. -/
def verifiedLifetimeYieldComponents (lifetime : List LifetimeInput) :
    List (LifetimeInput × LifetimeYieldInput) :=
  lifetime.filterMap fun chain =>
    (chain.lifetimeYield.filter (·.reconciliationStatus = "verified")).map (chain, ·)

/-- What a row of the breakdown says of the interval of its chain. -/
structure ChainHistory where
  windowStart : String
  windowEnd : String
  fromBlock : String
  toBlock : String
  coverageScope : String
  reconciliationStatus : String
  windowConvention : String
deriving DecidableEq, Repr

/-- `history` of a row of the breakdown. -/
def HistoryChainInput.chainHistory (interval : HistoryChainInput) : ChainHistory where
  windowStart := interval.windowStart
  windowEnd := interval.windowEnd
  fromBlock := interval.fromBlock
  toBlock := interval.toBlock
  coverageScope := interval.coverageScope
  reconciliationStatus := interval.reconciliationStatus
  windowConvention := interval.windowConvention

/-- A row of the breakdown by chain. -/
structure ChainBreakdownRow where
  chainId : ℕ
  chainSlug : String
  chainName : String
  status : String
  blockNumber : String
  blockHash : String
  blockTimestamp : String
  usdpTotalSupply : String
  susdpTotalAssets : String
  susdpTvlUsdEstimate : MetricValue
  susdpActualAssets : String
  susdpPendingYield : String
  susdpTotalSupply : String
  susdpSharePriceUsdp : String
  estimatedApy : String
  pauseState : ℤ
  assetRelationshipVerified : Bool
  ypoSevenDay : MetricValue
  history : Option ChainHistory
  manifestVersion : String
  calculationVersion : String
deriving DecidableEq, Repr

/-- The metrics of the row in the market table. -/
structure MarketRow where
  tvlUsdp : MetricValue
  tvlUsdEstimate : MetricValue
  tvlSevenDayChange : MetricValue
  estimatedApy : MetricValue
  realizedApySevenDay : MetricValue
  realizedApyThirtyDay : MetricValue
  ypoSevenDay : MetricValue
  ypoThirtyDay : MetricValue
  ypoNinetyDay : MetricValue
  ypoAllTime : MetricValue
deriving DecidableEq, Repr

/-- The metrics at the head of the page. -/
structure PayloadHeadline where
  tvlUsdp : MetricValue
  tvlUsdEstimate : MetricValue
  usdpPriceUsd : MetricValue
  susdpMarketPriceUsd : MetricValue
  estimatedApy : MetricValue
  ypoSevenDay : MetricValue
  ypoAllTime : MetricValue
deriving DecidableEq, Repr

/-- The two supplies of USDp. -/
structure PayloadUsdpSupply where
  onSavingsChains : MetricValue
  global : MetricValue
deriving DecidableEq, Repr

/-- A chart with the components of its sum. -/
structure PayloadChart (Component : Type) where
  status : String
  reason : Option String
  components : List Component

/-- What the payload says of its sources. -/
structure PayloadTrust where
  freshness : Option Freshness
  coverage : Option SavingsCoverage
  globalUsdpCoverage : Option GlobalUsdpCoverage
  globalUsdpAccountingStatus : Option String
  globalHistoryStatus : String
  expectedSavingsChainIds : List ℕ
  verifiedHistoricalChainIds : List ℕ
  missingHistoricalChainIds : List ℕ
  currentCalculationVersion : Option String
deriving DecidableEq, Repr

/-- What `buildStablewatchAssetPayload` returns. -/
structure StablewatchPayload where
  generatedAt : String
  status : String
  marketRow : MarketRow
  headline : PayloadHeadline
  usdpSupply : PayloadUsdpSupply
  chainBreakdown : List ChainBreakdownRow
  ypoChart : PayloadChart HistoryChainInput
  ypoAllTimeChart : PayloadChart (LifetimeInput × LifetimeYieldInput)
  trust : PayloadTrust

namespace StablewatchPayloadInput

variable (input : StablewatchPayloadInput)

/-- The total assets, where `globalAvailable`. -/
def availableTotalAssets : Option String := do
  let totalAssetsUsdp ← present (input.global.susdp.bind (·.totalAssetsUsdp))
  let _ ← present (input.global.usdp.bind (·.supplyOnSavingsChains))
  return totalAssetsUsdp

/-- The snapshot is stale, by its status or by its age. -/
def currentStale : Bool :=
  input.global.status = "stale" ∨ (input.global.freshness.bind (·.stale)).getD false

/-- The price of USDp is stale; a price that is missing counts as stale. -/
def priceStale : Bool := (input.prices.usdp.map (·.stale)).getD true

/-- The price of USDp, where `priceAvailable`. -/
def availablePrice : Option PriceInput :=
  input.prices.usdp.filter (·.priceUsdAtomic ≠ "")

/-- Every chain is in the global supply. -/
def globalUsdpCoverageComplete : Bool :=
  (input.globalUsdp.bind (·.coverage)).any (·.complete)

/-- The global supply that may be shown, which is the verified one once the accounts are. -/
def globalUsdpValue : Option String := do
  let globalUsdp ← input.globalUsdp
  if input.globalUsdpCoverageComplete then
    if globalUsdp.accountingStatus = some "verified" then globalUsdp.verifiedTotalSupply
    else globalUsdp.candidateTotalSupply
  else none

/-- The metric of the global supply. -/
def globalUsdpSupply : MetricValue :=
  let accountingStatus := input.globalUsdp.bind (·.accountingStatus)
  let metric := match present input.globalUsdpValue with
    | some value => availableMetric value "usdp_base_units" {
        verification := if accountingStatus = some "verified" then .verified else .candidate
        asOf := input.globalUsdp.bind (·.asOf)
        calculationVersion := input.globalUsdp.bind (·.calculationVersion)
        attribution := some ("Aligned sum of 24 onchain USDp totalSupply components; bridge " ++
          "accounting promotion remains separate") }
    | none => unavailableMetric "usdp_base_units"
        (if input.globalUsdp.isSome then "twenty_four_chain_supply_snapshot_incomplete"
        else "twenty_four_chain_supply_snapshot_missing")
  staleMetricIf (input.globalUsdp.any fun globalUsdp =>
    globalUsdp.status = "stale" ∨ globalUsdp.stale.getD false) metric

/-- The metric of the assets in all vaults. -/
def tvlUsdp : MetricValue :=
  staleMetricIf input.currentStale <|
    match input.availableTotalAssets with
    | some totalAssetsUsdp => availableMetric totalAssetsUsdp "usdp_base_units" {
        verification := .candidate
        asOf := input.global.asOf
        calculationVersion := input.global.calculationVersion }
    | none => unavailableMetric "usdp_base_units" "global_savings_snapshot_missing"

/-- The metric of the assets in US dollars; it needs the price besides. -/
def tvlUsdEstimate : Except JsError MetricValue :=
  (staleMetricIf (input.currentStale || input.priceStale)) <$>
    match input.availableTotalAssets, input.availablePrice with
    | some totalAssetsUsdp, some price => do
        let value ← multiplyByUsdPrice totalAssetsUsdp price.priceUsdAtomic price.decimals
        let priceAsOf := (present input.prices.blockTimestamp).getD "unknown time"
        return availableMetric value "usd_atomic_18" {
          verification := .candidate
          asOf := input.global.asOf
          calculationVersion := some "parallel-stablewatch-attributed-usd-v1-candidate"
          attribution :=
            some s!"{price.source} USDp/USD price observed on HyperEVM at {priceAsOf}" }
    | some _, none => .ok (unavailableMetric "usd_atomic_18" "usdp_usd_price_missing")
    | none, _ => .ok (unavailableMetric "usd_atomic_18" "global_savings_snapshot_missing")

/-- The metric of the mean rate, as the vaults state it. -/
def estimatedApy : MetricValue :=
  staleMetricIf input.currentStale <|
    match present (input.global.susdp.bind (·.weightedEstimatedApy)) with
    | some weightedEstimatedApy => availableMetric weightedEstimatedApy "fixed_18" {
        verification := .candidate
        asOf := input.global.asOf
        calculationVersion := input.global.calculationVersion
        attribution := some "TVL-weighted onchain estimated APY; not trailing realized APY" }
    | none => unavailableMetric "fixed_18" "weighted_estimated_apy_missing"

/-- The metric of the supply of USDp on the savings chains. -/
def onSavingsChains : MetricValue :=
  match present (input.global.usdp.bind (·.supplyOnSavingsChains)) with
  | some supplyOnSavingsChains => availableMetric supplyOnSavingsChains "usdp_base_units" {
      verification := .candidate
      asOf := input.global.asOf
      calculationVersion := input.global.calculationVersion }
  | none => unavailableMetric "usdp_base_units" "savings_chain_supply_missing"

/-- The metric of the yield of seven days, over all chains that are reconciled. -/
def ypoSevenDay : MetricValue :=
  match input.history.global.filter fun _ => input.history.globalVerified with
  | some global => availableMetric global.nativeYpo "usdp_base_units" {
      verification := .verified
      asOf := some global.windowEnd
      calculationVersion := some global.calculationVersion }
  | none => unavailableMetric "usdp_base_units" "aligned_five_chain_reconciled_window_pending"

/-- `four_chain_lifetime_history_or_reconciliation_pending`, unless all four chains are in. -/
def ypoAllTime : Except JsError MetricValue := do
  let components := verifiedLifetimeYieldComponents input.lifetime
  let yields ← components.mapM fun component => bigInt component.2.nativeYpo
  let windowEnds := components.map (·.2.windowEnd)
  return if components.length = 4 then
      availableMetric (toString yields.sum) "usdp_base_units" {
        verification := .verified
        asOf := (windowEnds.insertionSort (· ≤ ·)).getLast?
        calculationVersion := some "parallel-indexed-lifetime-savings-native-ypo-v1"
        attribution := some ("Sum of verified sUSDp deployment-to-fixed-endpoint YPO on " ++
          "Ethereum, Base, Sonic, and Avalanche; HyperEVM excluded") }
    else unavailableMetric "usdp_base_units"
      "four_chain_lifetime_history_or_reconciliation_pending"

/-- The price of an asset as a metric. -/
def priceMetric (price : Option PriceInput) (missing : String) : MetricValue :=
  staleMetricIf (price.any (·.stale)) <|
    match price with
    | some price => availableMetric price.priceUsdAtomic "usd_atomic" {
        verification := .candidate
        asOf := present input.prices.blockTimestamp
        attribution := some price.source }
    | none => unavailableMetric "usd_atomic" missing

/-- `historyByChain.get(chainId)`: the last entry of a chain is the one that counts. -/
def historyByChain (chainId : ℕ) : Option HistoryChainInput :=
  (input.history.chains.getD []).reverse.find? (·.chainId = chainId)

/-- The metric of the assets of one chain in US dollars. -/
def chainTvlUsd (component : GlobalSavingsComponentInput) : Except JsError MetricValue :=
  match input.prices.usdp with
  | some price => do
      let value ← multiplyByUsdPrice component.susdpTotalAssets price.priceUsdAtomic price.decimals
      return staleMetricIf price.stale (availableMetric value "usd_atomic_18" {
        verification := .candidate
        asOf := some component.blockTimestamp
        attribution := some s!"{price.source} cross-chain USDp price attribution" })
  | none => .ok (unavailableMetric "usd_atomic_18" "usdp_usd_price_missing")

/-- The metric of the yield of seven days on one chain. -/
def chainYpoSevenDay (chainId : ℕ) : MetricValue :=
  match input.historyByChain chainId with
  | some interval => availableMetric interval.nativeYpo "usdp_base_units" {
      verification :=
        if interval.reconciliationStatus = "verified" then .verified else .candidate
      asOf := some interval.windowEnd
      calculationVersion := some interval.calculationVersion }
  | none => unavailableMetric "usdp_base_units" "chain_history_backfill_or_reconciliation_pending"

/-- One row of the breakdown. -/
def chainRow (component : GlobalSavingsComponentInput) : Except JsError ChainBreakdownRow := do
  let susdpTvlUsdEstimate ← input.chainTvlUsd component
  let adapter := savingsChainAdapters.find? (·.chainId = component.chainId)
  return {
    chainId := component.chainId
    chainSlug := component.chainSlug
    chainName := (adapter.map (·.chainName)).getD component.chainSlug
    status := component.status
    blockNumber := component.blockNumber
    blockHash := component.blockHash
    blockTimestamp := component.blockTimestamp
    usdpTotalSupply := component.usdpTotalSupply
    susdpTotalAssets := component.susdpTotalAssets
    susdpTvlUsdEstimate := susdpTvlUsdEstimate
    susdpActualAssets := component.susdpActualAssets
    susdpPendingYield := component.susdpPendingYield
    susdpTotalSupply := component.susdpTotalSupply
    susdpSharePriceUsdp := component.susdpSharePriceUsdp
    estimatedApy := component.susdpEstimatedApy
    pauseState := component.susdpPauseState
    assetRelationshipVerified := component.assetRelationshipVerified
    ypoSevenDay := input.chainYpoSevenDay component.chainId
    history := (input.historyByChain component.chainId).map HistoryChainInput.chainHistory
    manifestVersion := component.manifestVersion
    calculationVersion := component.calculationVersion }

/-- `savingsChainAdapters.findIndex(…)`: `-1` where there is no adapter. -/
def adapterIndex (chainId : ℕ) : ℤ :=
  match savingsChainIds.findIdx? (· = chainId) with
  | some index => index
  | none => -1

/-- The breakdown, with the chains in the order of the registry. -/
def chainBreakdown : Except JsError (List ChainBreakdownRow) := do
  let rows ← (input.global.components.getD []).mapM input.chainRow
  return sortBy (fun left right => adapterIndex left.chainId - adapterIndex right.chainId) rows

/-- What is said of the sources, and which chains they leave out. -/
def trust : PayloadTrust :=
  let verifiedChains :=
    (input.history.chains.getD []).filter (·.reconciliationStatus = "verified")
  { freshness := input.global.freshness
    coverage := input.global.coverage
    globalUsdpCoverage := input.globalUsdp.bind (·.coverage)
    globalUsdpAccountingStatus := input.globalUsdp.bind (·.accountingStatus)
    globalHistoryStatus := input.history.status
    expectedSavingsChainIds := savingsChainIds
    verifiedHistoricalChainIds := verifiedChains.map (·.chainId)
    missingHistoricalChainIds := savingsChainIds.filter (· ∉ verifiedChains.map (·.chainId))
    currentCalculationVersion := input.global.calculationVersion }

end StablewatchPayloadInput

/-- `buildStablewatchAssetPayload`. -/
def buildStablewatchAssetPayload (input : StablewatchPayloadInput) :
    Except JsError StablewatchPayload := do
  let tvlUsdp := input.tvlUsdp
  let tvlUsdEstimate ← input.tvlUsdEstimate
  let estimatedApy := input.estimatedApy
  let ypoSevenDay := input.ypoSevenDay
  let ypoAllTime ← input.ypoAllTime
  let chainBreakdown ← input.chainBreakdown
  let globalHistoryVerified := input.history.globalVerified
  let lifetimeComponents := verifiedLifetimeYieldComponents input.lifetime
  return {
    generatedAt := input.generatedAt
    status :=
      if globalHistoryVerified && input.globalUsdpCoverageComplete then "candidate" else "partial"
    marketRow := {
      tvlUsdp := tvlUsdp
      tvlUsdEstimate := tvlUsdEstimate
      tvlSevenDayChange := unavailableMetric "fixed_18" "aligned_tvl_time_series_not_backfilled"
      estimatedApy := estimatedApy
      realizedApySevenDay :=
        unavailableMetric "fixed_18" "realized_trailing_apy_not_yet_reconciled"
      realizedApyThirtyDay := unavailableMetric "fixed_18" "thirty_day_history_not_backfilled"
      ypoSevenDay := ypoSevenDay
      ypoThirtyDay := unavailableMetric "usdp_base_units" "thirty_day_history_not_backfilled"
      ypoNinetyDay := unavailableMetric "usdp_base_units" "ninety_day_history_not_backfilled"
      ypoAllTime := ypoAllTime }
    headline := {
      tvlUsdp := tvlUsdp
      tvlUsdEstimate := tvlUsdEstimate
      usdpPriceUsd := input.priceMetric input.prices.usdp "usdp_usd_price_missing"
      susdpMarketPriceUsd := input.priceMetric input.prices.susdp "susdp_usd_price_missing"
      estimatedApy := estimatedApy
      ypoSevenDay := ypoSevenDay
      ypoAllTime := ypoAllTime }
    usdpSupply := {
      onSavingsChains := input.onSavingsChains
      global := input.globalUsdpSupply }
    chainBreakdown := chainBreakdown
    ypoChart := {
      status := if globalHistoryVerified then "available" else "partial"
      reason :=
        if globalHistoryVerified then none
        else some "aligned_five_chain_reconciled_window_pending"
      components := input.history.chains.getD [] }
    ypoAllTimeChart := {
      status := if lifetimeComponents.length = 4 then "available" else "partial"
      reason :=
        if lifetimeComponents.length = 4 then none
        else some "four_chain_lifetime_history_or_reconciliation_pending"
      components := lifetimeComponents }
    trust := input.trust }

end UsdpIndexer
