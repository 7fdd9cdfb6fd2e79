import Mathlib.Data.Int.ConditionallyCompleteOrder
import Mathlib.Order.ConditionallyCompleteLattice.Basic
import UsdpIndexer.Library.Compounding
import UsdpIndexer.Protocol.SavingsMath

/-!
# The accrual formula

On natural numbers `computeUpdatedAssets` is compounding in fixed point over `BASE_27`: its
signed divisions are floors, its halves and sixths are binomial coefficients, the differences
near zero do no harm, and what it returns early is what the formula gives.
-/

namespace UsdpIndexer

open Compounding

/-- The base as a natural number. -/
def accrualBase : ℕ := 10 ^ 27

theorem cast_accrualBase : ((accrualBase : ℕ) : ℤ) = BASE_27 := by decide

theorem accrualBase_pos : 0 < accrualBase := by decide

theorem cast_halfBase : ((accrualBase / 2 : ℕ) : ℤ) = HALF_BASE_27 := by decide

theorem mulRound_eq_tdiv (a b : ℕ) :
    ((a : ℤ) * b + HALF_BASE_27).tdiv BASE_27 = (mulRound accrualBase a b : ℕ) := by
  rw [mulRound, Int.ofNat_tdiv, Nat.cast_add, Nat.cast_mul, cast_accrualBase, cast_halfBase]

/-- **The code computes the formula.** -/
theorem computeUpdatedAssets_eq_grown (balance rate elapsed : ℕ) :
    computeUpdatedAssets balance rate elapsed = (grown accrualBase balance rate elapsed : ℕ) := by
  rw [computeUpdatedAssets]
  split
  · next early =>
      rcases early with zero | zero
      · rw [Nat.cast_eq_zero.mp zero, grown_steps_zero accrualBase_pos]
      · rw [Nat.cast_eq_zero.mp zero, grown_rate_zero accrualBase_pos]
  · next later =>
      have running : elapsed ≠ 0 := fun zero => later (.inl (by rw [zero, Nat.cast_zero]))
      have minusOne : (elapsed : ℤ) - 1 = (elapsed - 1 : ℕ) := by omega
      have minusTwo : (if (elapsed : ℤ) > 2 then (elapsed : ℤ) - 2 else 0) = (elapsed - 2 : ℕ) := by
        split <;> omega
      have powerTwo := mulRound_eq_tdiv rate rate
      have powerThree := mulRound_eq_tdiv (secondPower accrualBase rate) rate
      have second := mul_pred_mul_div_two elapsed (secondPower accrualBase rate)
      have third := mul_pred_mul_pred_mul_div_six elapsed (thirdPower accrualBase rate)
      simp only [minusOne, minusTwo, powerTwo]
      rw [← secondPower, powerThree, ← thirdPower, ← cast_accrualBase, grown, factor, ← second,
        ← third]
      push_cast
      rfl

/-- A larger balance, a higher rate and a longer time accrue to no less. -/
theorem computeUpdatedAssets_le {balance balance' rate rate' elapsed elapsed' : ℕ}
    (hbalance : balance ≤ balance') (hrate : rate ≤ rate') (helapsed : elapsed ≤ elapsed') :
    computeUpdatedAssets balance rate elapsed ≤ computeUpdatedAssets balance' rate' elapsed' := by
  rw [computeUpdatedAssets_eq_grown, computeUpdatedAssets_eq_grown, Nat.cast_le]
  exact grown_le_grown accrualBase hbalance hrate helapsed

/-- **The accrual formula** and what it implies, for amounts that are not negative. -/
theorem computeUpdatedAssets_formula (b r t : ℕ) :
    (computeUpdatedAssets b r t = (
        let B : ℕ := 10 ^ 27
        let p2 := (r * r + B / 2) / B
        let p3 := (p2 * r + B / 2) / B
        b * (B + r * t + t.choose 2 * p2 + t.choose 3 * p3) / B : ℕ)) ∧
      ((b + b * r * t / 10 ^ 27 : ℕ) : ℤ) ≤ computeUpdatedAssets b r t ∧
      (Monotone fun b : ℕ => computeUpdatedAssets b r t) ∧
      (Monotone fun r : ℕ => computeUpdatedAssets b r t) ∧
      Monotone fun t : ℕ => computeUpdatedAssets b r t := by
  refine ⟨computeUpdatedAssets_eq_grown b r t, ?_, ?_, ?_, ?_⟩
  · rw [computeUpdatedAssets_eq_grown, Nat.cast_le]
    exact linear_le_grown accrualBase_pos b r t
  · exact fun _ _ le => computeUpdatedAssets_le le le_rfl le_rfl
  · exact fun _ _ le => computeUpdatedAssets_le le_rfl le le_rfl
  · exact fun _ _ le => computeUpdatedAssets_le le_rfl le_rfl le

/-! ## On integers -/

section Integers

variable {balance rate elapsed : ℤ} (hbalance : 0 ≤ balance) (hrate : 0 ≤ rate)

include hbalance hrate in
theorem computeUpdatedAssets_mono_elapsed (helapsed : 0 ≤ elapsed) {elapsed' : ℤ}
    (le : elapsed ≤ elapsed') :
    computeUpdatedAssets balance rate elapsed ≤ computeUpdatedAssets balance rate elapsed' := by
  lift balance to ℕ using hbalance
  lift rate to ℕ using hrate
  lift elapsed to ℕ using helapsed
  lift elapsed' to ℕ using (Int.natCast_nonneg elapsed).trans le
  exact computeUpdatedAssets_le le_rfl le_rfl (Nat.cast_le.mp le)

include hbalance hrate in
/-- Nothing is lost by accruing. -/
theorem le_computeUpdatedAssets (helapsed : 0 ≤ elapsed) :
    balance ≤ computeUpdatedAssets balance rate elapsed := by
  have start := computeUpdatedAssets_mono_elapsed hbalance hrate le_rfl helapsed
  rwa [computeUpdatedAssets_elapsed_zero] at start

end Integers

end UsdpIndexer
