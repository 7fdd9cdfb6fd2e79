import Mathlib.Algebra.BigOperators.Group.List.Basic
import Mathlib.Data.List.Dedup
import UsdpIndexer.Analytics.YieldReconciliation
import UsdpIndexer.Library.Accounting

/-!
# Sums over chains

Three functions add up chain components and report which chains the sum is about:
`aggregateSavingsComponents` of `analytics/multichain-snapshots.ts`,
`aggregateUsdpSupplyComponents` of `analytics/usdp-supply.ts` and
`aggregateSavingsYieldComponents` of `analytics/multichain-yield.ts`.  Each decides the
coverage by counting and builds its lists of chain ids by filters of its own.
`chains_accounted_for` says that the counts and the lists agree.

Times are milliseconds since the epoch here, as in a `Date`.
-/

namespace UsdpIndexer

open Accounting

/-! ## What is aggregated -/

/-- `snapshot_status`. -/
inductive SnapshotStatus
  | candidate
  | verified
  | invalid
deriving DecidableEq, Repr

/-- `coverage_status`; the one in the middle is stored as `partial`. -/
inductive CoverageStatus
  | complete
  | partially
  | unavailable
deriving DecidableEq, Repr

/-- The decision all three functions make. -/
def coverageStatus (includedCount expectedCount : ℕ) : CoverageStatus :=
  if includedCount = expectedCount then .complete
  else if includedCount > 0 then .partially
  else .unavailable

/-- `Math.max(0, Math.floor((asOf - timestamp) / 1_000))`. -/
def ageSeconds (asOf timestamp : ℤ) : ℤ := max 0 ((asOf - timestamp) / 1000)

/-- `.sort((left, right) => left - right)`. -/
def ascending (ids : List ℕ) : List ℕ := ids.insertionSort (· ≤ ·)

@[simp] theorem mem_ascending {ids : List ℕ} {id : ℕ} : id ∈ ascending ids ↔ id ∈ ids :=
  List.mem_insertionSort _

/-! ### The five savings chains -/

/-- What of a snapshot of a chain goes into the sum. -/
structure SavingsAggregationComponent where
  snapshotId : ℕ
  chainId : ℕ
  blockTimestamp : ℤ
  snapshotStatus : SnapshotStatus
  usdpTotalSupply : ℤ
  susdpTotalSupply : ℤ
  susdpTotalAssets : ℤ
  susdpEstimatedApy : ℤ
deriving DecidableEq, Repr

/-- Too old, or invalid. -/
def SavingsAggregationComponent.isStale (asOf maximumAgeSeconds : ℤ)
    (component : SavingsAggregationComponent) : Bool :=
  ageSeconds asOf component.blockTimestamp > maximumAgeSeconds ∨
    component.snapshotStatus = .invalid

/-- The sum over the chains, and which of them it leaves out. -/
structure SavingsAggregate where
  coverageStatus : CoverageStatus
  included : List SavingsAggregationComponent
  includedChainIds : List ℕ
  missingChainIds : List ℕ
  staleChainIds : List ℕ
  usdpSupplyOnSavingsChains : ℤ
  susdpTotalAssets : ℤ
  susdpTotalSupply : ℤ
  weightedEstimatedApy : Option ℤ
  oldestComponentTimestamp : Option ℤ
  newestComponentTimestamp : Option ℤ
  maximumComponentAgeSeconds : Option ℤ
deriving DecidableEq, Repr

/-- The sum over the snapshots that are not stale. -/
def aggregateSavingsComponents (components : List SavingsAggregationComponent)
    (expectedChainIds : List ℕ) (asOf maximumAgeSeconds : ℤ) : SavingsAggregate :=
  let missingChainIds := expectedChainIds.filter fun chainId =>
    !decide (chainId ∈ components.map (·.chainId))
  let staleChainIds := (components.filter (·.isStale asOf maximumAgeSeconds)).map (·.chainId)
  let included := components.filter fun component : SavingsAggregationComponent =>
    !decide (component.chainId ∈ staleChainIds)
  let susdpTotalAssets := (included.map (·.susdpTotalAssets)).sum
  let timestamps := included.map (·.blockTimestamp)
  let oldestComponentTimestamp := timestamps.min?
  { coverageStatus := coverageStatus included.length expectedChainIds.length
    included := included
    includedChainIds := included.map (·.chainId)
    missingChainIds := missingChainIds
    staleChainIds := staleChainIds
    usdpSupplyOnSavingsChains := (included.map (·.usdpTotalSupply)).sum
    susdpTotalAssets := susdpTotalAssets
    susdpTotalSupply := (included.map (·.susdpTotalSupply)).sum
    weightedEstimatedApy :=
      if susdpTotalAssets = 0 then none
      else some ((included.map fun component : SavingsAggregationComponent =>
        component.susdpTotalAssets * component.susdpEstimatedApy).sum.tdiv susdpTotalAssets)
    oldestComponentTimestamp := oldestComponentTimestamp
    newestComponentTimestamp := timestamps.max?
    maximumComponentAgeSeconds := oldestComponentTimestamp.map (ageSeconds asOf) }

/-! ### The supply on all chains -/

/-- How the block of a reading was found. -/
inductive FinalityMode
  | rpcFinalized
  | confirmationLag
  | confirmationLagFallback
deriving DecidableEq, Repr

/-- Where the endpoint of a reading was configured. -/
inductive SupplyRpcSource
  | chainOverride
  | savingsChainOverride
  | publicDefault
deriving DecidableEq, Repr

/-- The supply of a chain with the evidence for it. -/
structure UsdpSupplyComponent where
  assetSnapshotId : ℕ
  chainId : ℕ
  chainSlug : String
  chainName : String
  blockNumber : ℤ
  blockHash : String
  blockTimestamp : ℤ
  totalSupply : ℤ
  snapshotStatus : SnapshotStatus
  metadataVerified : Bool
  observedName : String
  observedSymbol : String
  observedDecimals : ℕ
  codeHash : String
  finalityMode : FinalityMode
  rpcSource : SupplyRpcSource
  manifestVersion : String
deriving DecidableEq, Repr

/-- Too old, or too far from the time of observation in either direction. -/
def UsdpSupplyComponent.isStale (asOf maximumAgeSeconds alignmentMaximumSkewSeconds : ℤ)
    (component : UsdpSupplyComponent) : Bool :=
  ageSeconds asOf component.blockTimestamp > maximumAgeSeconds ∨
    |asOf - component.blockTimestamp| / 1000 > alignmentMaximumSkewSeconds

/-- The supply over the chains, and which of them it leaves out. -/
structure UsdpSupplyAggregate where
  coverageStatus : CoverageStatus
  included : List UsdpSupplyComponent
  includedChainIds : List ℕ
  missingChainIds : List ℕ
  staleChainIds : List ℕ
  failedChainIds : List ℕ
  candidateTotalSupply : ℤ
  oldestComponentTimestamp : Option ℤ
  newestComponentTimestamp : Option ℤ
  maximumComponentAgeSeconds : Option ℤ
  componentSkewSeconds : Option ℤ
deriving DecidableEq, Repr

/-- The sum over the readings whose metadata is right and which are not stale. -/
def aggregateUsdpSupplyComponents (components : List UsdpSupplyComponent)
    (expectedChainIds failedChainIds : List ℕ)
    (asOf maximumAgeSeconds alignmentMaximumSkewSeconds : ℤ) : UsdpSupplyAggregate :=
  let staleChainIds := (components.filter
    (·.isStale asOf maximumAgeSeconds alignmentMaximumSkewSeconds)).map (·.chainId)
  let metadataFailureChainIds := (components.filter (!·.metadataVerified)).map (·.chainId)
  let allFailedChainIds := ascending (failedChainIds ++ metadataFailureChainIds).dedup
  let included := components.filter fun component =>
    component.metadataVerified && !decide (component.chainId ∈ staleChainIds)
  let observedChainIds := components.map (·.chainId) ++ allFailedChainIds
  let timestamps := included.map (·.blockTimestamp)
  let oldestComponentTimestamp := timestamps.min?
  let newestComponentTimestamp := timestamps.max?
  { coverageStatus := coverageStatus included.length expectedChainIds.length
    included := included
    includedChainIds := ascending (included.map (·.chainId))
    missingChainIds := ascending (expectedChainIds.filter fun chainId =>
      !decide (chainId ∈ observedChainIds))
    staleChainIds := ascending staleChainIds.dedup
    failedChainIds := allFailedChainIds
    candidateTotalSupply := (included.map (·.totalSupply)).sum
    oldestComponentTimestamp := oldestComponentTimestamp
    newestComponentTimestamp := newestComponentTimestamp
    maximumComponentAgeSeconds := oldestComponentTimestamp.map (ageSeconds asOf)
    componentSkewSeconds := do
      let oldest ← oldestComponentTimestamp
      let newest ← newestComponentTimestamp
      return (newest - oldest) / 1000 }

/-! ### The yield of a window -/

/-- What of an interval goes into the sum. -/
structure YieldComponentInput where
  id : ℕ
  chainId : ℕ
  nativeYpo : ℤ
  reconciliationStatus : ReconciliationStatus
deriving DecidableEq, Repr

/-- The yield over the chains, and which of them it leaves out. -/
structure SavingsYieldAggregate where
  coverageStatus : CoverageStatus
  included : List YieldComponentInput
  includedChainIds : List ℕ
  missingChainIds : List ℕ
  unreconciledChainIds : List ℕ
  nativeYpo : ℤ
deriving DecidableEq, Repr

/-- The sum over the intervals that are verified. -/
def aggregateSavingsYieldComponents (components : List YieldComponentInput)
    (expectedChainIds : List ℕ) : SavingsYieldAggregate :=
  let included := components.filter (·.reconciliationStatus = .verified)
  { coverageStatus := coverageStatus included.length expectedChainIds.length
    included := included
    includedChainIds := included.map (·.chainId)
    missingChainIds := expectedChainIds.filter fun chainId =>
      !decide (chainId ∈ components.map (·.chainId))
    unreconciledChainIds :=
      (components.filter (·.reconciliationStatus ≠ .verified)).map (·.chainId)
    nativeYpo := (included.map (·.nativeYpo)).sum }

/-! ## The accounts -/

/-- Every expected chain is in exactly one of the lists, no other chain is in any, and
the status says which lists are empty. -/
structure ChainAccounts (expected included missing excluded : List ℕ) (status : CoverageStatus) :
    Prop where
  placed : ∀ chain ∈ expected,
    ExactlyOne (chain ∈ included) (chain ∈ missing) (chain ∈ excluded)
  expectedOnly : ∀ chain, chain ∈ included ∨ chain ∈ missing ∨ chain ∈ excluded →
    chain ∈ expected
  complete_iff : status = .complete ↔ missing = [] ∧ excluded = []
  unavailable_iff : status = .unavailable ↔ included = []

theorem coverageStatus_eq_complete {includedCount expectedCount : ℕ} :
    coverageStatus includedCount expectedCount = .complete ↔ includedCount = expectedCount := by
  unfold coverageStatus
  split
  · simp_all
  · split <;> simp_all

theorem coverageStatus_eq_unavailable {includedCount expectedCount : ℕ}
    (expected : expectedCount ≠ 0) :
    coverageStatus includedCount expectedCount = .unavailable ↔ includedCount = 0 := by
  unfold coverageStatus
  split
  · simp_all
  · split
    · simp only [reduceCtorEq, false_iff]
      omega
    · simp only [true_iff]
      omega

section Accounts

variable {α : Type} {id : α → ℕ} {expected : List ℕ} {components : List α}

/-- Nothing is missing or held back exactly if every chain has come in and every component is
kept. -/
theorem missing_excluded_eq_nil_iff (reported : Reported id expected components)
    (keep : α → Bool) {failed missing excluded : List ℕ}
    (failedExpected : ∀ chain ∈ failed, chain ∈ expected)
    (failedApart : ∀ chain ∈ failed, chain ∉ components.map id)
    (hmissing : ∀ chain, chain ∈ missing
      ↔ chain ∈ expected ∧ chain ∉ components.map id ∧ chain ∉ failed)
    (hexcluded : ∀ chain, chain ∈ excluded
      ↔ chain ∈ (components.filter fun component => !keep component).map id ∨ chain ∈ failed) :
    (components.filter keep).length = expected.length ↔ missing = [] ∧ excluded = [] := by
  rw [reported.length_filter_eq_length_iff]
  constructor
  · rintro ⟨all, keeps⟩
    constructor
    · refine List.eq_nil_iff_forall_not_mem.mpr fun chain mem => ?_
      obtain ⟨hexpected, absent, -⟩ := (hmissing chain).mp mem
      exact absent (all chain hexpected)
    · refine List.eq_nil_iff_forall_not_mem.mpr fun chain mem => ?_
      rcases (hexcluded chain).mp mem with held | hfailed
      · obtain ⟨component, hcomponent, rfl⟩ := List.mem_map.mp held
        obtain ⟨inside, dropped⟩ := List.mem_filter.mp hcomponent
        rw [keeps component inside] at dropped
        cases dropped
      · exact failedApart chain hfailed (all chain (failedExpected chain hfailed))
  · rintro ⟨noneMissing, noneExcluded⟩
    subst noneMissing noneExcluded
    constructor
    · intro chain mem
      by_contra absent
      -- what has not come in and is not missing has failed, and that is excluded
      by_cases hfailed : chain ∈ failed
      · exact List.not_mem_nil ((hexcluded chain).mpr (.inr hfailed))
      · exact List.not_mem_nil ((hmissing chain).mpr ⟨mem, absent, hfailed⟩)
    · intro component mem
      by_contra dropped
      refine List.not_mem_nil ((hexcluded (id component)).mpr (.inl ?_))
      exact List.mem_map_of_mem (List.mem_filter.mpr ⟨mem, by simpa using dropped⟩)

/-- **One argument for the three functions.**  The lists of a summary account for the
expected chains if they have the members they should have: the kept components, what
neither has come in nor has failed, and the components that are held back with what has
failed. -/
theorem chainAccounts_of_reported (reported : Reported id expected components)
    (keep : α → Bool) (failed : List ℕ) {included missing excluded : List ℕ}
    (failedExpected : ∀ chain ∈ failed, chain ∈ expected)
    (failedApart : ∀ chain ∈ failed, chain ∉ components.map id)
    (hincluded : ∀ chain, chain ∈ included ↔ chain ∈ (components.filter keep).map id)
    (hmissing : ∀ chain, chain ∈ missing
      ↔ chain ∈ expected ∧ chain ∉ components.map id ∧ chain ∉ failed)
    (hexcluded : ∀ chain, chain ∈ excluded
      ↔ chain ∈ (components.filter fun component => !keep component).map id ∨ chain ∈ failed) :
    ChainAccounts expected included missing excluded
      (coverageStatus (components.filter keep).length expected.length) where
  placed := by
    intro chain mem
    rw [hincluded, hmissing, hexcluded]
    by_cases hfailed : chain ∈ failed
    · have absent (chosen : α → Bool) : chain ∉ (components.filter chosen).map id := fun inside =>
        failedApart chain hfailed ((List.filter_sublist.map id).subset inside)
      exact .inr (.inr ⟨absent keep, fun missing => missing.2.2 hfailed, .inr hfailed⟩)
    · have split := reported.exactlyOne keep chain
      simpa [mem, hfailed] using split
  expectedOnly := by
    have inside (chosen : α → Bool) {chain : ℕ} (mem : chain ∈ (components.filter chosen).map id) :
        chain ∈ expected := by
      obtain ⟨component, hcomponent, rfl⟩ := List.mem_map.mp mem
      exact reported.subset component (List.mem_filter.mp hcomponent).1
    intro chain
    rw [hincluded, hmissing, hexcluded]
    rintro (mem | ⟨mem, -⟩ | mem | mem)
    · exact inside keep mem
    · exact mem
    · exact inside _ mem
    · exact failedExpected chain mem
  complete_iff := by
    rw [coverageStatus_eq_complete]
    exact missing_excluded_eq_nil_iff reported keep failedExpected failedApart hmissing hexcluded
  unavailable_iff := by
    have nonempty : expected.length ≠ 0 := fun vacant =>
      reported.nonempty (List.eq_nil_of_length_eq_zero vacant)
    rw [coverageStatus_eq_unavailable nonempty, List.length_eq_zero_iff,
      List.eq_nil_iff_forall_not_mem (l := included)]
    constructor
    · intro vacant chain mem
      rw [hincluded, vacant] at mem
      exact List.not_mem_nil mem
    · intro vacant
      refine List.eq_nil_iff_forall_not_mem.mpr fun component mem => ?_
      exact vacant _ ((hincluded _).mpr (List.mem_map_of_mem mem))

end Accounts

/-- The sum over the components of certain chains. -/
def totalOver {α : Type} (id : α → ℕ) (chains : List ℕ) (components : List α) (value : α → ℤ) :
    ℤ :=
  ((components.filter fun component => id component ∈ chains).map value).sum

/-! ## The three functions -/

section Functions

variable {expected : List ℕ} {asOf maximumAgeSeconds alignmentMaximumSkewSeconds : ℤ}

/-- Under distinct chain ids the stale components are those whose chain is stale. -/
theorem aggregateSavingsComponents_included {components : List SavingsAggregationComponent}
    (reported : Reported (·.chainId) expected components) :
    (aggregateSavingsComponents components expected asOf maximumAgeSeconds).included
      = components.filter fun component => !component.isStale asOf maximumAgeSeconds := by
  apply List.filter_congr
  intro component mem
  rw [reported.decide_mem_ids_filter mem]

theorem aggregateSavingsComponents_accounts {components : List SavingsAggregationComponent}
    (reported : Reported (·.chainId) expected components) :
    let aggregate := aggregateSavingsComponents components expected asOf maximumAgeSeconds
    ChainAccounts expected aggregate.includedChainIds aggregate.missingChainIds
      aggregate.staleChainIds aggregate.coverageStatus := by
  intro aggregate
  have kept : aggregate.included = _ := aggregateSavingsComponents_included reported
  show ChainAccounts _ _ _ _ (coverageStatus aggregate.included.length expected.length)
  rw [kept]
  exact chainAccounts_of_reported reported
    (fun component => !component.isStale asOf maximumAgeSeconds) [] (by simp) (by simp)
    (fun chain => by rw [← kept]; rfl)
    (fun chain => by simp [aggregate, aggregateSavingsComponents])
    (fun chain => by simp [aggregate, aggregateSavingsComponents])

theorem aggregateUsdpSupplyComponents_included {components : List UsdpSupplyComponent}
    {failed : List ℕ} (reported : Reported (·.chainId) expected components) :
    (aggregateUsdpSupplyComponents components expected failed asOf maximumAgeSeconds
        alignmentMaximumSkewSeconds).included
      = components.filter fun component => component.metadataVerified &&
          !component.isStale asOf maximumAgeSeconds alignmentMaximumSkewSeconds := by
  apply List.filter_congr
  intro component mem
  rw [reported.decide_mem_ids_filter mem]

/-- What is excluded from the supply is what is stale or has failed, itself or by its
metadata. -/
theorem aggregateUsdpSupplyComponents_accounts {components : List UsdpSupplyComponent}
    {failed : List ℕ} (reported : Reported (·.chainId) expected components)
    (failedExpected : ∀ chain ∈ failed, chain ∈ expected)
    (failedApart : ∀ chain ∈ failed, chain ∉ components.map (·.chainId)) :
    let aggregate := aggregateUsdpSupplyComponents components expected failed asOf
      maximumAgeSeconds alignmentMaximumSkewSeconds
    ChainAccounts expected aggregate.includedChainIds aggregate.missingChainIds
      (aggregate.staleChainIds ++ aggregate.failedChainIds) aggregate.coverageStatus := by
  intro aggregate
  have kept : aggregate.included = _ := aggregateUsdpSupplyComponents_included reported
  show ChainAccounts _ _ _ _ (coverageStatus aggregate.included.length expected.length)
  rw [kept]
  refine chainAccounts_of_reported reported
    (fun component => component.metadataVerified &&
      !component.isStale asOf maximumAgeSeconds alignmentMaximumSkewSeconds)
    failed failedExpected failedApart (fun chain => by rw [← kept]; exact mem_ascending)
    (fun chain => ?_) (fun chain => ?_)
  · -- a chain whose metadata failed has come in
    simp only [aggregate, aggregateUsdpSupplyComponents, mem_ascending, List.mem_filter,
      List.mem_append, List.mem_dedup, Bool.not_eq_true', decide_eq_false_iff_not, not_or]
    refine and_congr_right fun _ => and_congr_right fun absent =>
      and_iff_left_of_imp fun _ mem => ?_
    exact absent ((List.filter_sublist.map _).subset mem)
  · simp only [aggregate, aggregateUsdpSupplyComponents, mem_ascending, List.mem_append,
      List.mem_dedup, List.mem_map, List.mem_filter, Bool.not_eq_true', Bool.not_and,
      Bool.or_eq_true, Bool.not_not]
    constructor
    · rintro (⟨component, ⟨mem, stale⟩, rfl⟩ | hfailed | ⟨component, ⟨mem, unverified⟩, rfl⟩)
      · exact .inl ⟨component, ⟨mem, .inr stale⟩, rfl⟩
      · exact .inr hfailed
      · exact .inl ⟨component, ⟨mem, .inl unverified⟩, rfl⟩
    · rintro (⟨component, ⟨mem, unverified | stale⟩, rfl⟩ | hfailed)
      · exact .inr (.inr ⟨component, ⟨mem, unverified⟩, rfl⟩)
      · exact .inl ⟨component, ⟨mem, stale⟩, rfl⟩
      · exact .inr (.inl hfailed)

theorem aggregateSavingsYieldComponents_accounts {components : List YieldComponentInput}
    (reported : Reported (·.chainId) expected components) :
    let aggregate := aggregateSavingsYieldComponents components expected
    ChainAccounts expected aggregate.includedChainIds aggregate.missingChainIds
      aggregate.unreconciledChainIds aggregate.coverageStatus := by
  intro aggregate
  exact chainAccounts_of_reported reported
    (fun component => component.reconciliationStatus = .verified) [] (by simp) (by simp)
    (fun chain => Iff.rfl)
    (fun chain => by simp [aggregate, aggregateSavingsYieldComponents])
    (fun chain => by simp [aggregate, aggregateSavingsYieldComponents])

/-- The kept components are those of the included chains, so sums over the one are sums
over the other. -/
theorem sum_filter_eq_totalOver {α : Type} {id : α → ℕ} {components : List α} {keep : α → Bool}
    (reported : Reported id expected components) {included : List ℕ}
    (hincluded : ∀ chain, chain ∈ included ↔ chain ∈ (components.filter keep).map id)
    (value : α → ℤ) :
    ((components.filter keep).map value).sum = totalOver id included components value := by
  simp only [totalOver, hincluded, reported.filter_mem_ids]

end Functions

/-- **The chains are accounted for.**  For components with distinct ids from a nonempty
expected set, each of the three functions puts every expected chain in exactly one of its
lists, its status says which lists are empty, and each total is the sum over the
components of the included chains. -/
theorem chains_accounted_for (expected : List ℕ) (asOf maximumAgeSeconds : ℤ) :
    (∀ components : List SavingsAggregationComponent,
      Reported (·.chainId) expected components →
      let aggregate := aggregateSavingsComponents components expected asOf maximumAgeSeconds
      let total := totalOver (·.chainId) aggregate.includedChainIds components
      ChainAccounts expected aggregate.includedChainIds aggregate.missingChainIds
          aggregate.staleChainIds aggregate.coverageStatus ∧
        aggregate.usdpSupplyOnSavingsChains = total (·.usdpTotalSupply) ∧
        aggregate.susdpTotalAssets = total (·.susdpTotalAssets) ∧
        aggregate.susdpTotalSupply = total (·.susdpTotalSupply)) ∧
    (∀ (components : List UsdpSupplyComponent) (failed : List ℕ)
      (alignmentMaximumSkewSeconds : ℤ), Reported (·.chainId) expected components →
      (∀ chain ∈ failed, chain ∈ expected) →
      (∀ chain ∈ failed, chain ∉ components.map (·.chainId)) →
      let aggregate := aggregateUsdpSupplyComponents components expected failed asOf
        maximumAgeSeconds alignmentMaximumSkewSeconds
      ChainAccounts expected aggregate.includedChainIds aggregate.missingChainIds
          (aggregate.staleChainIds ++ aggregate.failedChainIds) aggregate.coverageStatus ∧
        aggregate.candidateTotalSupply
          = totalOver (·.chainId) aggregate.includedChainIds components (·.totalSupply)) ∧
    (∀ components : List YieldComponentInput, Reported (·.chainId) expected components →
      let aggregate := aggregateSavingsYieldComponents components expected
      ChainAccounts expected aggregate.includedChainIds aggregate.missingChainIds
          aggregate.unreconciledChainIds aggregate.coverageStatus ∧
        aggregate.nativeYpo
          = totalOver (·.chainId) aggregate.includedChainIds components (·.nativeYpo)) := by
  refine ⟨fun components reported => ?_, fun components failed skew reported inside apart => ?_,
    fun components reported => ?_⟩
  · intro aggregate total
    have included : aggregate.included = _ := aggregateSavingsComponents_included reported
    have sums (value : SavingsAggregationComponent → ℤ) :
        (aggregate.included.map value).sum = total value := by
      rw [included]
      apply sum_filter_eq_totalOver reported
      intro chain
      rw [← included]
      exact Iff.rfl
    exact ⟨aggregateSavingsComponents_accounts reported, sums _, sums _, sums _⟩
  · intro aggregate
    have included : aggregate.included = _ := aggregateUsdpSupplyComponents_included reported
    refine ⟨aggregateUsdpSupplyComponents_accounts reported inside apart, ?_⟩
    show (aggregate.included.map _).sum = _
    rw [included]
    apply sum_filter_eq_totalOver reported
    intro chain
    rw [← included]
    exact mem_ascending
  · intro aggregate
    refine ⟨aggregateSavingsYieldComponents_accounts reported, ?_⟩
    exact sum_filter_eq_totalOver reported (fun chain => Iff.rfl) _

/-- Of three chains one is fresh, one is an hour old, and one has not come in. -/
def threeChains : List SavingsAggregationComponent :=
  [⟨7, 1, 10_000_000, .candidate, 500, 90, 100, 3⟩, ⟨8, 146, 6_400_000, .candidate, 50, 9, 10, 4⟩]

theorem chains_accounted_for_threeChains :
    let aggregate := aggregateSavingsComponents threeChains [1, 8453, 146] 10_000_000 1800
    ChainAccounts [1, 8453, 146] [1] [8453] [146] .partially ∧
      aggregate.includedChainIds = [1] ∧ aggregate.missingChainIds = [8453] ∧
      aggregate.staleChainIds = [146] ∧
      aggregate.susdpTotalAssets = totalOver (·.chainId) [1] threeChains (·.susdpTotalAssets) ∧
      aggregate.susdpTotalAssets = 100 := by
  obtain ⟨accounts, -, total, -⟩ :=
    (chains_accounted_for [1, 8453, 146] 10_000_000 1800).1 threeChains (by decide)
  exact ⟨accounts, rfl, rfl, rfl, total, rfl⟩

end UsdpIndexer
