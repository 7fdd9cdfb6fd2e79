import Mathlib.Algebra.Order.BigOperators.Group.List
import Mathlib.Algebra.BigOperators.Ring.List
import Mathlib.Algebra.Order.Ring.Int

/-!
# Weighted means, rounded down

A list of elements with an integer weight and an integer value each.  The
products are added up and divided by the sum of the weights, rounding down.
Elements of weight zero have no say: where every element of positive weight
has a value between two bounds, so has the mean (`le_mean`, `mean_le`), and
rounding down does not take it below the lower bound, which is an integer.
-/

namespace WeightedMean

universe u

variable {α : Type u} {weight value : α → ℤ} {l : List α} {bound : ℤ}

/-- The products of weight and value, added up. -/
def weightedSum (weight value : α → ℤ) (l : List α) : ℤ :=
  (l.map fun a => weight a * value a).sum

theorem sum_nonneg (nonneg : ∀ a ∈ l, 0 ≤ weight a) : 0 ≤ (l.map weight).sum := by
  refine List.sum_nonneg fun w mem => ?_
  obtain ⟨a, inside, rfl⟩ := List.mem_map.mp mem
  exact nonneg a inside

theorem weightedSum_le (nonneg : ∀ a ∈ l, 0 ≤ weight a)
    (below : ∀ a ∈ l, 0 < weight a → value a ≤ bound) :
    weightedSum weight value l ≤ (l.map weight).sum * bound := by
  rw [← List.sum_map_mul_right]
  refine List.sum_le_sum fun a mem => ?_
  obtain zero | positive := (nonneg a mem).eq_or_lt
  · simp [← zero]
  · exact Int.mul_le_mul_of_nonneg_left (below a mem positive) positive.le

theorem le_weightedSum (nonneg : ∀ a ∈ l, 0 ≤ weight a)
    (above : ∀ a ∈ l, 0 < weight a → bound ≤ value a) :
    (l.map weight).sum * bound ≤ weightedSum weight value l := by
  rw [← List.sum_map_mul_right]
  refine List.sum_le_sum fun a mem => ?_
  obtain zero | positive := (nonneg a mem).eq_or_lt
  · simp [← zero]
  · exact Int.mul_le_mul_of_nonneg_left (above a mem positive) positive.le

/-- The mean does not exceed a bound on the values that count. -/
theorem mean_le (nonneg : ∀ a ∈ l, 0 ≤ weight a) (positive : 0 < (l.map weight).sum)
    (below : ∀ a ∈ l, 0 < weight a → value a ≤ bound) :
    weightedSum weight value l / (l.map weight).sum ≤ bound := by
  have := weightedSum_le nonneg below
  rw [mul_comm] at this
  exact Int.ediv_le_of_le_mul positive this

/-- The mean does not fall below a bound on the values that count. -/
theorem le_mean (nonneg : ∀ a ∈ l, 0 ≤ weight a) (positive : 0 < (l.map weight).sum)
    (above : ∀ a ∈ l, 0 < weight a → bound ≤ value a) :
    bound ≤ weightedSum weight value l / (l.map weight).sum := by
  have := le_weightedSum nonneg above
  rw [mul_comm] at this
  exact (Int.le_ediv_iff_mul_le positive).mpr this

/-- A positive sum has a positive summand. -/
theorem exists_pos (positive : 0 < (l.map weight).sum) : ∃ a ∈ l, 0 < weight a := by
  refine List.exists_lt_of_sum_lt (fun _ => 0) weight ?_
  simpa using positive

/-- **The mean lies between the least and the greatest value that counts.** -/
theorem mean_between (nonneg : ∀ a ∈ l, 0 ≤ weight a) (positive : 0 < (l.map weight).sum) :
    ∃ least ∈ l, ∃ greatest ∈ l, 0 < weight least ∧ 0 < weight greatest ∧
      (∀ a ∈ l, 0 < weight a → value least ≤ value a ∧ value a ≤ value greatest) ∧
      value least ≤ weightedSum weight value l / (l.map weight).sum ∧
      weightedSum weight value l / (l.map weight).sum ≤ value greatest := by
  obtain ⟨a, mem, weighs⟩ := exists_pos positive
  have counted : l.filter (0 < weight ·) ≠ [] :=
    List.ne_nil_of_mem (List.mem_filter.mpr ⟨mem, decide_eq_true weighs⟩)
  obtain ⟨memLeast, weighsLeast⟩ := List.mem_filter.mp
    (List.minOn_mem (f := value) (h := counted))
  obtain ⟨memGreatest, weighsGreatest⟩ := List.mem_filter.mp
    (List.maxOn_mem (f := value) (h := counted))
  have extremes : ∀ a ∈ l, 0 < weight a →
      value (List.minOn value _ counted) ≤ value a ∧
        value a ≤ value (List.maxOn value _ counted) := by
    intro a inside weighs
    have kept : a ∈ l.filter (0 < weight ·) :=
      List.mem_filter.mpr ⟨inside, decide_eq_true weighs⟩
    exact ⟨List.apply_minOn_le_of_mem kept, List.le_apply_maxOn_of_mem kept⟩
  exact ⟨_, memLeast, _, memGreatest, of_decide_eq_true weighsLeast,
    of_decide_eq_true weighsGreatest, extremes,
    le_mean nonneg positive fun a inside weighs => (extremes a inside weighs).1,
    mean_le nonneg positive fun a inside weighs => (extremes a inside weighs).2⟩

end WeightedMean
