import Mathlib.Algebra.Order.Ring.Int
import Mathlib.Data.Nat.Size

/-!
# Binary search over integers

The search for the least integer of a range that has a property, by questions that may fail
and whose answers may depend on when they are asked.  The loop halves the range with every
question, so it ends; the number of questions is the number of binary digits of the range
(`leastFrom_congr`).
-/

namespace BinarySearch

universe u

variable {ε : Type u}

/-- The loop, with the number of questions asked so far. -/
def leastFrom (reached : ℕ → ℤ → Except ε Bool) (turn : ℕ) (low upper : ℤ) : Except ε ℤ :=
  if low < upper then
    let middle := (low + upper) / 2
    match reached turn middle with
    | .error e => .error e
    | .ok true => leastFrom reached (turn + 1) low middle
    | .ok false => leastFrom reached (turn + 1) (middle + 1) upper
  else .ok low
termination_by (upper - low).toNat
decreasing_by all_goals omega

/-- **The search finds the least integer that has the property**, where the answers are about a
property that is not lost further up and that the upper end has. -/
theorem leastFrom_spec {P : ℤ → Prop} {reached : ℕ → ℤ → Except ε Bool} {turn : ℕ}
    {low upper found : ℤ}
    (answers : ∀ turn n b, reached turn n = .ok b → (b = true ↔ P n))
    (upward : ∀ m n, low ≤ m → m ≤ n → P m → P n) (ordered : low ≤ upper) (high : P upper)
    (result : leastFrom reached turn low upper = .ok found) :
    low ≤ found ∧ found ≤ upper ∧ P found ∧ ∀ n, low ≤ n → n < found → ¬ P n := by
  induction turn, low, upper using leastFrom.induct reached with
  | case1 turn low upper running middle e answer =>
      rw [leastFrom, if_pos running] at result
      simp only [middle] at answer
      simp only [answer] at result
      cases result
  | case2 turn low upper running middle answer ih =>
      rw [leastFrom, if_pos running] at result
      simp only [middle] at answer ih
      simp only [answer] at result
      obtain ⟨least, le, found, below⟩ := ih upward (by omega)
        ((answers _ _ _ answer).mp rfl) result
      exact ⟨least, by omega, found, below⟩
  | case3 turn low upper running middle answer ih =>
      rw [leastFrom, if_pos running] at result
      simp only [middle] at answer ih
      simp only [answer] at result
      have notYet : ¬ P ((low + upper) / 2) := by
        rw [← answers _ _ _ answer]
        exact Bool.false_ne_true
      obtain ⟨least, le, found, below⟩ := ih (fun m n from_low => upward m n (by omega))
        (by omega) high result
      refine ⟨by omega, le, found, fun n n_low n_lt holds => ?_⟩
      by_cases n_le : n ≤ (low + upper) / 2
      · -- what holds up to the middle holds in the middle
        exact notYet (upward n _ n_low n_le holds)
      · exact below n (by omega) n_lt holds
  | case4 turn low upper done =>
      rw [leastFrom, if_neg done, Except.ok.injEq] at result
      have same : upper = low := by omega
      rw [same] at high
      rw [← result]
      exact ⟨le_rfl, ordered, high, fun n n_low n_lt => absurd n_lt (not_lt.mpr n_low)⟩

theorem size_half {d : ℕ} (positive : 0 < d) : (d / 2).size + 1 = d.size := by
  conv_rhs => rw [← Nat.bit_bodd_div2 d]
  rw [Nat.size_bit (by rw [Nat.bit_bodd_div2]; omega), Nat.div2_val]

/-- A part of at most half of the range has a binary digit less. -/
theorem size_part_lt {low upper : ℤ} (running : low < upper) (low' upper' : ℤ)
    (half : upper' - low' ≤ (upper - low) / 2) :
    (upper' - low').toNat.size + 1 ≤ (upper - low).toNat.size := by
  rw [← size_half (d := (upper - low).toNat) (by omega)]
  have := Nat.size_le_size (show (upper' - low').toNat ≤ (upper - low).toNat / 2 by omega)
  omega

/-- **How many questions are asked.**  Answers behind the binary digits of the range are not
looked at. -/
theorem leastFrom_congr {reached reached' : ℕ → ℤ → Except ε Bool} {turn : ℕ} {low upper : ℤ}
    (same : ∀ t, t < turn + (upper - low).toNat.size → reached t = reached' t) :
    leastFrom reached turn low upper = leastFrom reached' turn low upper := by
  induction turn, low, upper using leastFrom.induct reached with
  | case1 turn low upper running middle e answer =>
      have asked := same turn (by
        have := size_part_lt running low low (by omega)
        omega)
      rw [leastFrom, leastFrom, if_pos running, if_pos running, ← asked]
      simp only [middle] at answer
      simp only [answer]
  | case2 turn low upper running middle answer ih =>
      have part := size_part_lt running low middle (by omega)
      have asked := same turn (by omega)
      rw [leastFrom, leastFrom, if_pos running, if_pos running, ← asked]
      simp only [middle] at answer ih part
      simp only [answer]
      exact ih fun t before => same t (by omega)
  | case3 turn low upper running middle answer ih =>
      have part := size_part_lt running (middle + 1) upper (by omega)
      have asked := same turn (by omega)
      rw [leastFrom, leastFrom, if_pos running, if_pos running, ← asked]
      simp only [middle] at answer ih part
      simp only [answer]
      exact ih fun t before => same t (by omega)
  | case4 turn low upper done =>
      rw [leastFrom, leastFrom, if_neg done, if_neg done]

end BinarySearch
