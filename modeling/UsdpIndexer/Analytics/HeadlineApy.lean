import UsdpIndexer.Analytics.ChainCoverage
import UsdpIndexer.Library.WeightedMean

/-!
# The headline APY is a mean

`aggregateSavingsComponents` publishes one APY for all savings chains: the
products of assets and APY, added up and divided by the assets.  With assets that
are not negative the quotient lies between the least and the greatest APY among
the vaults that hold anything, and where no vault does there is no quotient.

Nothing the function adds up depends on the order of the components: which of
them are included is decided for each by its chain, and the rest are sums and
extremes.
-/

namespace UsdpIndexer

open WeightedMean

variable {components components' : List SavingsAggregationComponent} {expected : List ℕ}
  {asOf maximumAgeSeconds : ℤ}

/-! ## The order of the components -/

theorem min?_perm {l l' : List ℤ} (perm : l.Perm l') : l.min? = l'.min? := by
  ext least
  rw [List.min?_eq_some_iff, List.min?_eq_some_iff]
  simp only [perm.mem_iff]

theorem max?_perm {l l' : List ℤ} (perm : l.Perm l') : l.max? = l'.max? := by
  ext greatest
  rw [List.max?_eq_some_iff, List.max?_eq_some_iff]
  simp only [perm.mem_iff]

/-- The chains that are too old are the same chains. -/
theorem mem_staleChainIds_perm (perm : components.Perm components') (chainId : ℕ) :
    chainId ∈ (components.filter (·.isStale asOf maximumAgeSeconds)).map (·.chainId)
      ↔ chainId ∈ (components'.filter (·.isStale asOf maximumAgeSeconds)).map (·.chainId) :=
  ((perm.filter _).map _).mem_iff

/-- What is included is the same up to its order. -/
theorem included_perm (perm : components.Perm components') :
    (aggregateSavingsComponents components expected asOf maximumAgeSeconds).included.Perm
      (aggregateSavingsComponents components' expected asOf maximumAgeSeconds).included := by
  simp only [aggregateSavingsComponents, mem_staleChainIds_perm perm]
  exact perm.filter _

/-- A sum over the included components does not see their order. -/
theorem sum_included_perm (perm : components.Perm components')
    (value : SavingsAggregationComponent → ℤ) :
    ((aggregateSavingsComponents components expected asOf maximumAgeSeconds).included.map
        value).sum
      = ((aggregateSavingsComponents components' expected asOf maximumAgeSeconds).included.map
        value).sum :=
  ((included_perm perm).map value).sum_eq

/-- The rate as a mean of what is included. -/
theorem weightedEstimatedApy_eq (components : List SavingsAggregationComponent) :
    (aggregateSavingsComponents components expected asOf maximumAgeSeconds).weightedEstimatedApy
      = let included :=
          (aggregateSavingsComponents components expected asOf maximumAgeSeconds).included
        if (included.map (·.susdpTotalAssets)).sum = 0 then none
        else some ((weightedSum (·.susdpTotalAssets) (·.susdpEstimatedApy) included).tdiv
          (included.map (·.susdpTotalAssets)).sum) := rfl

/-- The numbers of an aggregate, without its lists. -/
structure SameTotals (aggregate aggregate' : SavingsAggregate) : Prop where
  usdpSupply : aggregate.usdpSupplyOnSavingsChains = aggregate'.usdpSupplyOnSavingsChains
  assets : aggregate.susdpTotalAssets = aggregate'.susdpTotalAssets
  supply : aggregate.susdpTotalSupply = aggregate'.susdpTotalSupply
  apy : aggregate.weightedEstimatedApy = aggregate'.weightedEstimatedApy
  coverage : aggregate.coverageStatus = aggregate'.coverageStatus
  oldest : aggregate.oldestComponentTimestamp = aggregate'.oldestComponentTimestamp
  newest : aggregate.newestComponentTimestamp = aggregate'.newestComponentTimestamp
  age : aggregate.maximumComponentAgeSeconds = aggregate'.maximumComponentAgeSeconds

theorem sameTotals_perm (perm : components.Perm components') :
    SameTotals (aggregateSavingsComponents components expected asOf maximumAgeSeconds)
      (aggregateSavingsComponents components' expected asOf maximumAgeSeconds) := by
  have same := @included_perm _ _ expected asOf maximumAgeSeconds perm
  have total := @sum_included_perm _ _ expected asOf maximumAgeSeconds perm
  have oldest := min?_perm (same.map (·.blockTimestamp))
  exact
    { usdpSupply := total (·.usdpTotalSupply)
      assets := total (·.susdpTotalAssets)
      supply := total (·.susdpTotalSupply)
      apy := by
        rw [weightedEstimatedApy_eq, weightedEstimatedApy_eq]
        simp only [weightedSum]
        rw [total (·.susdpTotalAssets),
          total fun component => component.susdpTotalAssets * component.susdpEstimatedApy]
      coverage := congrArg (coverageStatus · expected.length) same.length_eq
      oldest := oldest
      newest := max?_perm (same.map (·.blockTimestamp))
      age := congrArg (Option.map (ageSeconds asOf)) oldest }

/-! ## The mean -/

/-- What is included was given. -/
theorem mem_of_mem_included {component : SavingsAggregationComponent}
    (mem : component ∈
      (aggregateSavingsComponents components expected asOf maximumAgeSeconds).included) :
    component ∈ components :=
  List.mem_of_mem_filter mem

/-- **The headline APY is a mean.**  It is missing exactly where the included
assets add up to nothing; otherwise it lies between the least and the greatest
APY of an included component that holds assets; and no total depends on the
order of the components. -/
theorem weightedEstimatedApy_mean
    (assets : ∀ component ∈ components, 0 ≤ component.susdpTotalAssets)
    (apys : ∀ component ∈ components, 0 ≤ component.susdpEstimatedApy) :
    let aggregate := aggregateSavingsComponents components expected asOf maximumAgeSeconds
    (aggregate.weightedEstimatedApy = none
        ↔ (aggregate.included.map (·.susdpTotalAssets)).sum = 0) ∧
      (∀ apy, aggregate.weightedEstimatedApy = some apy →
        ∃ least ∈ aggregate.included, ∃ greatest ∈ aggregate.included,
          0 < least.susdpTotalAssets ∧ 0 < greatest.susdpTotalAssets ∧
          (∀ component ∈ aggregate.included, 0 < component.susdpTotalAssets →
            least.susdpEstimatedApy ≤ component.susdpEstimatedApy ∧
              component.susdpEstimatedApy ≤ greatest.susdpEstimatedApy) ∧
          least.susdpEstimatedApy ≤ apy ∧ apy ≤ greatest.susdpEstimatedApy) ∧
      ∀ components', components'.Perm components →
        SameTotals (aggregateSavingsComponents components' expected asOf maximumAgeSeconds)
          aggregate := by
  intro aggregate
  have nonneg : ∀ component ∈ aggregate.included, 0 ≤ component.susdpTotalAssets :=
    fun component mem => assets component (mem_of_mem_included mem)
  have earns : ∀ component ∈ aggregate.included, 0 ≤ component.susdpEstimatedApy :=
    fun component mem => apys component (mem_of_mem_included mem)
  refine ⟨?_, ?_, fun components' => sameTotals_perm⟩
  · rw [weightedEstimatedApy_eq]
    simp only
    split <;> simp [aggregate, *]
  · intro apy present
    rw [weightedEstimatedApy_eq] at present
    simp only at present
    split at present
    · cases present
    · rename_i held
      have positive : 0 < (aggregate.included.map (·.susdpTotalAssets)).sum :=
        lt_of_le_of_ne (sum_nonneg nonneg) (Ne.symm held)
      have products : 0 ≤ weightedSum (·.susdpTotalAssets) (·.susdpEstimatedApy)
          aggregate.included := by
        have := le_weightedSum nonneg fun component mem _ => earns component mem
        simpa using this
      rw [Int.tdiv_eq_ediv_of_nonneg products, Option.some.injEq] at present
      rw [← present]
      exact mean_between nonneg positive

/-- Two vaults, the larger one at the higher rate, and one with nothing in it. -/
def threeVaults : List SavingsAggregationComponent :=
  [⟨1, 1, 0, .candidate, 1000, 90, 100, 10⟩, ⟨2, 8453, 0, .verified, 1000, 90, 300, 21⟩,
    ⟨3, 146, 0, .candidate, 1000, 0, 0, 99⟩]

theorem weightedEstimatedApy_mean_threeVaults :
    (aggregateSavingsComponents threeVaults [1, 8453, 146] 0 300).weightedEstimatedApy = some 18 ∧
      ∃ least ∈ threeVaults, ∃ greatest ∈ threeVaults,
        least.susdpEstimatedApy ≤ 18 ∧ 18 ≤ greatest.susdpEstimatedApy := by
  have apy : (aggregateSavingsComponents threeVaults [1, 8453, 146] 0 300).weightedEstimatedApy
      = some 18 := by decide
  obtain ⟨-, between, -⟩ := @weightedEstimatedApy_mean threeVaults [1, 8453, 146] 0 300
    (by decide) (by decide)
  obtain ⟨least, memLeast, greatest, memGreatest, -, -, -, low, high⟩ := between 18 apy
  exact ⟨apy, least, mem_of_mem_included memLeast, greatest, mem_of_mem_included memGreatest,
    low, high⟩

end UsdpIndexer
