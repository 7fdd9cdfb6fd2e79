import Mathlib.Algebra.Order.Group.Abs
import UsdpIndexer.Analytics.UsdpSupply

/-!
# Alignment of the supply components

Two places of `analytics/usdp-supply.ts` compare a block with the time of
observation.  The capture asks `isBlockTimestampOutsideAlignment` whether the
finalized block will do, in whole seconds of the observation; the aggregate
drops what is stale, by a difference in milliseconds that is rounded down.

* `supplyAlignment_bounds`: what the aggregate includes is within the limit of
  the observation, one by one.  Two components on the same side of it are within
  the limit of each other; two on different sides are within twice the limit and
  a second.
* `outsideAlignment_agrees_iff`: the two gates disagree about one second only,
  the one behind the limit on the side of the future, where the observation is
  not on a full second.
-/

namespace UsdpIndexer

section Bounds

variable {components : List UsdpSupplyComponent} {expected failed : List ℕ}
  {asOf maximumAgeSeconds alignmentMaximumSkewSeconds : ℤ} {component : UsdpSupplyComponent}

theorem isStale_eq_false :
    component.isStale asOf maximumAgeSeconds alignmentMaximumSkewSeconds = false
      ↔ ageSeconds asOf component.blockTimestamp ≤ maximumAgeSeconds ∧
        |asOf - component.blockTimestamp| / 1000 ≤ alignmentMaximumSkewSeconds := by
  simp [UsdpSupplyComponent.isStale]

/-- What is included is a component with verified metadata, on a chain with
nothing stale. -/
theorem mem_included_iff :
    component ∈ (aggregateUsdpSupplyComponents components expected failed asOf maximumAgeSeconds
        alignmentMaximumSkewSeconds).included
      ↔ component ∈ components ∧ component.metadataVerified = true ∧
        ∀ other ∈ components, other.chainId = component.chainId →
          other.isStale asOf maximumAgeSeconds alignmentMaximumSkewSeconds = false := by
  simp only [aggregateUsdpSupplyComponents, List.mem_filter, Bool.and_eq_true,
    Bool.not_eq_true', decide_eq_false_iff_not, List.mem_map, not_exists, not_and]
  refine and_congr_right fun _ => and_congr_right fun _ => forall_congr' fun other => ?_
  constructor
  · intro fresh mem same
    cases stale : other.isStale asOf maximumAgeSeconds alignmentMaximumSkewSeconds with
    | true => exact absurd same (fresh ⟨mem, stale⟩)
    | false => rfl
  · rintro fresh ⟨mem, stale⟩ same
    rw [fresh mem same] at stale
    cases stale

/-- An included component is not stale itself. -/
theorem fresh_of_mem_included
    (mem : component ∈ (aggregateUsdpSupplyComponents components expected failed asOf
      maximumAgeSeconds alignmentMaximumSkewSeconds).included) :
    ageSeconds asOf component.blockTimestamp ≤ maximumAgeSeconds ∧
      |asOf - component.blockTimestamp| / 1000 ≤ alignmentMaximumSkewSeconds := by
  obtain ⟨given, -, fresh⟩ := mem_included_iff.mp mem
  exact isStale_eq_false.mp (fresh component given rfl)

end Bounds

/-! ## Distances -/

/-- A distance of at most `limit` whole seconds, in milliseconds. -/
theorem within_iff {asOf time limit : ℤ} :
    |asOf - time| / 1000 ≤ limit
      ↔ asOf - time < 1000 * (limit + 1) ∧ time - asOf < 1000 * (limit + 1) := by
  rw [← Int.lt_add_one_iff, Int.ediv_lt_iff_lt_mul (by decide), abs_lt]
  omega

/-- On one side of the observation no two times are further apart than the
further one is from it. -/
theorem skew_le_of_same_side {asOf first second limit : ℤ}
    (near : |asOf - first| / 1000 ≤ limit) (near' : |asOf - second| / 1000 ≤ limit)
    (side : (asOf ≤ first ∧ asOf ≤ second) ∨ (first ≤ asOf ∧ second ≤ asOf)) :
    (second - first) / 1000 ≤ limit := by
  rw [within_iff] at near near'
  omega

/-- Across the observation both distances count, and so do the two fractions of a second. -/
theorem skew_le {asOf first second limit : ℤ}
    (near : |asOf - first| / 1000 ≤ limit) (near' : |asOf - second| / 1000 ≤ limit) :
    (second - first) / 1000 ≤ 2 * limit + 1 := by
  rw [within_iff] at near near'
  omega

/-! ## The aggregate -/

section Aggregate

variable (components : List UsdpSupplyComponent) (expected failed : List ℕ)
  (asOf maximumAgeSeconds alignmentMaximumSkewSeconds : ℤ)

/-- The two ends of what is included are times of included components. -/
theorem componentSkewSeconds_eq_some {components : List UsdpSupplyComponent}
    {expected failed : List ℕ} {asOf maximumAgeSeconds alignmentMaximumSkewSeconds skew : ℤ}
    (skewed : (aggregateUsdpSupplyComponents components expected failed asOf maximumAgeSeconds
      alignmentMaximumSkewSeconds).componentSkewSeconds = some skew) :
    ∃ oldest ∈ (aggregateUsdpSupplyComponents components expected failed asOf maximumAgeSeconds
        alignmentMaximumSkewSeconds).included,
      ∃ newest ∈ (aggregateUsdpSupplyComponents components expected failed asOf
          maximumAgeSeconds alignmentMaximumSkewSeconds).included,
        skew = (newest.blockTimestamp - oldest.blockTimestamp) / 1000 := by
  obtain ⟨first, minimum, skewed⟩ := Option.bind_eq_some_iff.mp skewed
  obtain ⟨last, maximum, skewed⟩ := Option.bind_eq_some_iff.mp skewed
  obtain ⟨oldest, memOldest, rfl⟩ := List.mem_map.mp (List.min?_mem minimum)
  obtain ⟨newest, memNewest, rfl⟩ := List.mem_map.mp (List.max?_mem maximum)
  cases skewed
  exact ⟨oldest, memOldest, newest, memNewest, rfl⟩

/-- **What is published is aligned with the observation.**  Every included
component is within the limit of it and young enough; two on one side of it are
within the limit of each other; the skew of all of them is within the limit
unless they lie on both sides, and then within twice the limit and a second; and
the age of the oldest is within the maximum. -/
theorem supplyAlignment_bounds :
    let aggregate := aggregateUsdpSupplyComponents components expected failed asOf
      maximumAgeSeconds alignmentMaximumSkewSeconds
    (∀ component ∈ aggregate.included,
        |asOf - component.blockTimestamp| / 1000 ≤ alignmentMaximumSkewSeconds) ∧
      (∀ first ∈ aggregate.included, ∀ second ∈ aggregate.included,
        (asOf ≤ first.blockTimestamp ∧ asOf ≤ second.blockTimestamp) ∨
            (first.blockTimestamp ≤ asOf ∧ second.blockTimestamp ≤ asOf) →
          (second.blockTimestamp - first.blockTimestamp) / 1000
            ≤ alignmentMaximumSkewSeconds) ∧
      (∀ skew, aggregate.componentSkewSeconds = some skew →
        skew ≤ 2 * alignmentMaximumSkewSeconds + 1 ∧
          ((∀ component ∈ aggregate.included, asOf ≤ component.blockTimestamp) ∨
              (∀ component ∈ aggregate.included, component.blockTimestamp ≤ asOf) →
            skew ≤ alignmentMaximumSkewSeconds)) ∧
      ∀ age, aggregate.maximumComponentAgeSeconds = some age → age ≤ maximumAgeSeconds := by
  intro aggregate
  have fresh : ∀ component ∈ aggregate.included,
      ageSeconds asOf component.blockTimestamp ≤ maximumAgeSeconds ∧
        |asOf - component.blockTimestamp| / 1000 ≤ alignmentMaximumSkewSeconds :=
    fun component mem => fresh_of_mem_included mem
  have near := fun component mem => (fresh component mem).2
  refine ⟨near, ?_, ?_, ?_⟩
  · intro first memFirst second memSecond side
    exact skew_le_of_same_side (near first memFirst) (near second memSecond) side
  · intro skew skewed
    obtain ⟨oldest, memOldest, newest, memNewest, rfl⟩ := componentSkewSeconds_eq_some skewed
    refine ⟨skew_le (near oldest memOldest) (near newest memNewest), fun side => ?_⟩
    refine skew_le_of_same_side (near oldest memOldest) (near newest memNewest) ?_
    rcases side with later | earlier
    · exact .inl ⟨later oldest memOldest, later newest memNewest⟩
    · exact .inr ⟨earlier oldest memOldest, earlier newest memNewest⟩
  · intro age aged
    obtain ⟨time, minimum, rfl⟩ := Option.map_eq_some_iff.mp aged
    obtain ⟨oldest, memOldest, rfl⟩ := List.mem_map.mp (List.min?_mem minimum)
    exact (fresh oldest memOldest).1

end Aggregate

/-- A component as a capture reports it, at a time. -/
def supplyComponentAt (chainId : ℕ) (blockTimestamp : ℤ) : UsdpSupplyComponent where
  assetSnapshotId := chainId
  chainId := chainId
  chainSlug := "chain"
  chainName := "Chain"
  blockNumber := 1
  blockHash := "0x"
  blockTimestamp := blockTimestamp
  totalSupply := 1000
  snapshotStatus := .candidate
  metadataVerified := true
  observedName := "Parallel USDp"
  observedSymbol := "USDp"
  observedDecimals := 18
  codeHash := "0x"
  finalityMode := .rpcFinalized
  rpcSource := .publicDefault
  manifestVersion := "manifest"

/-- Half an hour before the observation and half an hour behind it: both
components are included under a limit of half an hour, and they are an hour apart. -/
theorem supplyAlignment_two_sides :
    let aggregate := aggregateUsdpSupplyComponents
      [supplyComponentAt 1 0, supplyComponentAt 56 3600000] [1, 56] [] 1800000 3600 1800
    aggregate.includedChainIds = [1, 56] ∧ aggregate.coverageStatus = .complete ∧
      aggregate.componentSkewSeconds = some 3600 ∧
      ¬ ∀ skew, aggregate.componentSkewSeconds = some skew → skew ≤ 1800 := by
  refine ⟨by decide, by decide, by decide, fun aligned => ?_⟩
  exact absurd (aligned 3600 (by decide)) (by decide)

/-! ## The two gates -/

/-- What the gate of the capture lets pass, in milliseconds. -/
theorem isBlockTimestampOutsideAlignment_eq_false {blockTimestamp observedAt limit : ℤ} :
    isBlockTimestampOutsideAlignment blockTimestamp observedAt limit = false
      ↔ observedAt / 1000 - blockTimestamp ≤ limit ∧
        blockTimestamp - observedAt / 1000 ≤ limit := by
  unfold isBlockTimestampOutsideAlignment
  simp only [gt_iff_lt, decide_eq_false_iff_not, not_lt]
  split <;> omega

/-- Rounding the observation down and rounding the distance down make a
difference to one second. -/
theorem outsideAlignment_iff_distance {blockTimestamp observedAt limit : ℤ} (sign : 0 ≤ limit) :
    (isBlockTimestampOutsideAlignment blockTimestamp observedAt limit = false
        ↔ |observedAt - blockTimestamp * 1000| / 1000 ≤ limit)
      ↔ ¬ (blockTimestamp = observedAt / 1000 + limit + 1 ∧ observedAt % 1000 ≠ 0) := by
  rw [isBlockTimestampOutsideAlignment_eq_false, within_iff]
  omega

/-- A component that is alone on its chain is included when it is within the
limit of the observation, where the limit on its age is no stricter. -/
theorem mem_included_iff_distance {components : List UsdpSupplyComponent}
    {component : UsdpSupplyComponent} {expected failed : List ℕ}
    {asOf maximumAgeSeconds alignmentMaximumSkewSeconds : ℤ} (mem : component ∈ components)
    (alone : ∀ other ∈ components, other.chainId = component.chainId → other = component)
    (metadata : component.metadataVerified = true)
    (age : alignmentMaximumSkewSeconds ≤ maximumAgeSeconds) :
    component ∈ (aggregateUsdpSupplyComponents components expected failed asOf maximumAgeSeconds
        alignmentMaximumSkewSeconds).included
      ↔ |asOf - component.blockTimestamp| / 1000 ≤ alignmentMaximumSkewSeconds := by
  rw [mem_included_iff]
  constructor
  · rintro ⟨-, -, fresh⟩
    exact (isStale_eq_false.mp (fresh component mem rfl)).2
  · intro near
    refine ⟨mem, metadata, fun other memOther same => ?_⟩
    rw [alone other memOther same, isStale_eq_false]
    refine ⟨?_, near⟩
    rw [within_iff] at near
    unfold ageSeconds
    omega

/-- **The capture and the aggregate agree about a block, except in one second.**
A block is accepted by the capture if and only if a component with its timestamp
is included, unless the block is one second behind the limit on the side of the
future and the observation is not on a full second; there the capture rejects the
block and the aggregate includes it. -/
theorem outsideAlignment_agrees_iff {components : List UsdpSupplyComponent}
    {component : UsdpSupplyComponent} {expected failed : List ℕ}
    {blockTimestamp observedAt maximumAgeSeconds alignmentMaximumSkewSeconds : ℤ}
    (mem : component ∈ components)
    (alone : ∀ other ∈ components, other.chainId = component.chainId → other = component)
    (metadata : component.metadataVerified = true)
    (timestamp : component.blockTimestamp = blockTimestamp * 1000)
    (sign : 0 ≤ alignmentMaximumSkewSeconds)
    (age : alignmentMaximumSkewSeconds ≤ maximumAgeSeconds) :
    (isBlockTimestampOutsideAlignment blockTimestamp observedAt alignmentMaximumSkewSeconds = false
        ↔ component ∈ (aggregateUsdpSupplyComponents components expected failed observedAt
          maximumAgeSeconds alignmentMaximumSkewSeconds).included)
      ↔ ¬ (blockTimestamp = observedAt / 1000 + alignmentMaximumSkewSeconds + 1 ∧
        observedAt % 1000 ≠ 0) := by
  rw [mem_included_iff_distance mem alone metadata age, timestamp]
  exact outsideAlignment_iff_distance sign

theorem outsideAlignment_agrees_iff_past :
    isBlockTimestampOutsideAlignment 0 1800999 1800 = false
      ↔ supplyComponentAt 1 0 ∈ (aggregateUsdpSupplyComponents [supplyComponentAt 1 0] [1] []
        1800999 3600 1800).included :=
  (@outsideAlignment_agrees_iff [supplyComponentAt 1 0] (supplyComponentAt 1 0) [1] [] 0 1800999
    3600 1800 (by decide) (by decide) rfl rfl (by decide) (by decide)).mpr (by decide)

/-- An observation half a second behind second zero, and a block 1801 seconds
behind it: the capture rejects the block, 1801 seconds away by its count, and the
aggregate includes it, at 1800 whole seconds. -/
theorem outsideAlignment_disagrees :
    isBlockTimestampOutsideAlignment 1801 500 1800 = true ∧
      supplyComponentAt 1 1801000 ∈ (aggregateUsdpSupplyComponents [supplyComponentAt 1 1801000]
        [1] [] 500 3600 1800).included := by
  decide

end UsdpIndexer
