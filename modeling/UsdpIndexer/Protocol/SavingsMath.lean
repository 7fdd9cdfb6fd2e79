import Mathlib.Algebra.Order.Ring.Int
import UsdpIndexer.Rpc.Errors

/-!
# Savings arithmetic

`protocol/savings-math.ts`: the rate model of the savings contract, in `bigint`
arithmetic.  Division of big integers rounds toward zero, which is `Int.tdiv`.
-/

namespace UsdpIndexer

/-- One, as the vault writes its rates. -/
def BASE_27 : ℤ := 10 ^ 27

/-- What is added before a division, so that it rounds to the nearest. -/
def HALF_BASE_27 : ℤ := BASE_27.tdiv 2

/-- The assets a balance has become after some seconds at a rate: the first terms of
the binomial expansion. -/
def computeUpdatedAssets (currentBalance ratePerSecond elapsedSeconds : ℤ) : ℤ :=
  if elapsedSeconds = 0 ∨ ratePerSecond = 0 then currentBalance
  else
    let expMinusOne := elapsedSeconds - 1
    let expMinusTwo := if elapsedSeconds > 2 then elapsedSeconds - 2 else 0
    let basePowerTwo := (ratePerSecond * ratePerSecond + HALF_BASE_27).tdiv BASE_27
    let basePowerThree := (basePowerTwo * ratePerSecond + HALF_BASE_27).tdiv BASE_27
    let secondTerm := (elapsedSeconds * expMinusOne * basePowerTwo).tdiv 2
    let thirdTerm := (elapsedSeconds * expMinusOne * expMinusTwo * basePowerThree).tdiv 6
    (currentBalance *
      (BASE_27 + ratePerSecond * elapsedSeconds + secondTerm + thirdTerm)).tdiv BASE_27

/-- What the total of a vault has over its actual assets. -/
def calculatePendingYield (totalAssets actualAssetBalance : ℕ) : Except JsError ℕ :=
  if totalAssets < actualAssetBalance then .error ⟨"Pending yield cannot be negative"⟩
  else .ok (totalAssets - actualAssetBalance)

/-- What has been accrued and is still pending, less what was pending before. -/
def calculateNativeYpo (accruedInterest pendingYieldAtStart pendingYieldAtEnd : ℤ) :
    Except JsError ℤ :=
  let value := accruedInterest + pendingYieldAtEnd - pendingYieldAtStart
  if value < 0 then .error ⟨"Native YPO cannot be negative"⟩ else .ok value

theorem calculatePendingYield_eq_ok {totalAssets actualAssetBalance pendingYield : ℕ} :
    calculatePendingYield totalAssets actualAssetBalance = .ok pendingYield
      ↔ totalAssets = actualAssetBalance + pendingYield := by
  unfold calculatePendingYield
  split <;> simp <;> omega

theorem calculateNativeYpo_eq_ok
    {accruedInterest pendingYieldAtStart pendingYieldAtEnd nativeYpo : ℤ} :
    calculateNativeYpo accruedInterest pendingYieldAtStart pendingYieldAtEnd = .ok nativeYpo
      ↔ nativeYpo = accruedInterest + pendingYieldAtEnd - pendingYieldAtStart ∧
        0 ≤ nativeYpo := by
  unfold calculateNativeYpo
  simp only
  split <;> simp <;> omega

@[simp] theorem computeUpdatedAssets_rate_zero (currentBalance elapsedSeconds : ℤ) :
    computeUpdatedAssets currentBalance 0 elapsedSeconds = currentBalance := by
  simp [computeUpdatedAssets]

@[simp] theorem computeUpdatedAssets_elapsed_zero (currentBalance ratePerSecond : ℤ) :
    computeUpdatedAssets currentBalance ratePerSecond 0 = currentBalance := by
  simp [computeUpdatedAssets]

end UsdpIndexer
