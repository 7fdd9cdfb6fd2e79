import Mathlib.Algebra.Order.Ring.Nat
import Mathlib.Data.Nat.Choose.Basic

/-!
# Compounding in fixed point

A balance that grows at a rate per step, in fixed point arithmetic over a base: the
binomial expansion of the growth factor is cut off behind the third power, the powers of the
rate are rounded to the nearest, and the result is rounded down.  Whatever the roundings do,
the result grows with the balance, with the rate and with the number of steps, and it is not
below simple interest.
-/

namespace Compounding

variable (base : ℕ)

/-- The product of two fixed point numbers, rounded to the nearest. -/
def mulRound (a b : ℕ) : ℕ := (a * b + base / 2) / base

/-- The square of a rate, rounded. -/
def secondPower (rate : ℕ) : ℕ := mulRound base rate rate

/-- The third power of a rate, rounded twice. -/
def thirdPower (rate : ℕ) : ℕ := mulRound base (secondPower base rate) rate

/-- The growth factor, cut off behind the third power. -/
def factor (rate steps : ℕ) : ℕ :=
  base + rate * steps + steps.choose 2 * secondPower base rate
    + steps.choose 3 * thirdPower base rate

/-- What a balance has become. -/
def grown (balance rate steps : ℕ) : ℕ := balance * factor base rate steps / base

/-! ## Monotonicity -/

theorem mulRound_le_mulRound {a a' b b' : ℕ} (ha : a ≤ a') (hb : b ≤ b') :
    mulRound base a b ≤ mulRound base a' b' :=
  Nat.div_le_div_right (Nat.add_le_add_right (Nat.mul_le_mul ha hb) _)

theorem secondPower_mono : Monotone (secondPower base) :=
  fun _ _ le => mulRound_le_mulRound base le le

theorem thirdPower_mono : Monotone (thirdPower base) :=
  fun _ _ le => mulRound_le_mulRound base (secondPower_mono base le) le

theorem factor_le_factor {rate rate' steps steps' : ℕ} (hrate : rate ≤ rate')
    (hsteps : steps ≤ steps') : factor base rate steps ≤ factor base rate' steps' := by
  have first := Nat.mul_le_mul hrate hsteps
  have second := Nat.mul_le_mul (Nat.choose_le_choose 2 hsteps) (secondPower_mono base hrate)
  have third := Nat.mul_le_mul (Nat.choose_le_choose 3 hsteps) (thirdPower_mono base hrate)
  unfold factor
  omega

/-- **More of anything grows to more.** -/
theorem grown_le_grown {balance balance' rate rate' steps steps' : ℕ}
    (hbalance : balance ≤ balance') (hrate : rate ≤ rate') (hsteps : steps ≤ steps') :
    grown base balance rate steps ≤ grown base balance' rate' steps' :=
  Nat.div_le_div_right (Nat.mul_le_mul hbalance (factor_le_factor base hrate hsteps))

/-! ## Bounds -/

variable {base}

@[simp] theorem grown_steps_zero (positive : 0 < base) (balance rate : ℕ) :
    grown base balance rate 0 = balance := by
  simp [grown, factor, Nat.choose, positive]

/-- A half is rounded down to nothing. -/
theorem mulRound_zero (a : ℕ) (positive : 0 < base) : mulRound base a 0 = 0 := by
  rw [mulRound, Nat.mul_zero, Nat.zero_add]
  exact Nat.div_eq_of_lt (Nat.div_lt_self positive (by decide))

@[simp] theorem grown_rate_zero (positive : 0 < base) (balance steps : ℕ) :
    grown base balance 0 steps = balance := by
  simp [grown, factor, secondPower, thirdPower, mulRound_zero _ positive, positive]

/-- **Simple interest is a lower bound.** -/
theorem linear_le_grown (positive : 0 < base) (balance rate steps : ℕ) :
    balance + balance * rate * steps / base ≤ grown base balance rate steps := by
  have le : balance * base + balance * rate * steps ≤ balance * factor base rate steps := by
    rw [Nat.mul_assoc, ← Nat.mul_add]
    refine Nat.mul_le_mul_left balance ?_
    unfold factor
    omega
  calc balance + balance * rate * steps / base
      = (balance * base + balance * rate * steps) / base := by
        rw [Nat.mul_comm balance base, Nat.mul_add_div positive]
    _ ≤ grown base balance rate steps := Nat.div_le_div_right le

/-! ## The terms as products -/

/-- The divisions of the expansion are exact. -/
theorem mul_pred_mul_div_two (steps power : ℕ) :
    steps * (steps - 1) * power / 2 = steps.choose 2 * power := by
  have even : steps * (steps - 1) = 2 * steps.choose 2 := by
    have falling := Nat.descFactorial_eq_factorial_mul_choose steps 2
    simpa [Nat.descFactorial, Nat.mul_comm] using falling
  rw [even, Nat.mul_assoc, Nat.mul_div_cancel_left _ (by decide)]

theorem mul_pred_mul_pred_mul_div_six (steps power : ℕ) :
    steps * (steps - 1) * (steps - 2) * power / 6 = steps.choose 3 * power := by
  have divisible : steps * (steps - 1) * (steps - 2) = 6 * steps.choose 3 := by
    have falling := Nat.descFactorial_eq_factorial_mul_choose steps 3
    have six : Nat.factorial 3 = 6 := rfl
    rw [six] at falling
    rw [← falling]
    simp only [Nat.descFactorial, Nat.mul_one, Nat.sub_zero]
    rw [Nat.mul_comm steps, Nat.mul_comm _ (steps - 2)]
  rw [divisible, Nat.mul_assoc, Nat.mul_div_cancel_left _ (by decide)]

end Compounding
