import Mathlib.Data.List.Basic

/-!
# Batches

A list cut into consecutive batches of one size, as a loop over offsets cuts it; the
last batch may be shorter.
-/

namespace Batches

universe u

variable {α : Type u}

/-- The consecutive batches of a list. -/
def batchesOf (batchSize : ℕ) (l : List α) : List (List α) :=
  (List.range ((l.length + batchSize - 1) / batchSize)).map fun index =>
    (l.drop (index * batchSize)).take batchSize

/-- The first batches together. -/
theorem flatten_range_batches (batchSize : ℕ) (l : List α) (count : ℕ) :
    ((List.range count).map fun index => (l.drop (index * batchSize)).take batchSize).flatten
      = l.take (count * batchSize) := by
  induction count with
  | zero => simp
  | succ count ih =>
      rw [List.range_succ, List.map_append, List.flatten_append, ih, Nat.succ_mul, List.take_add]
      simp

/-- All the batches together are the list. -/
theorem flatten_batchesOf {batchSize : ℕ} (positive : 0 < batchSize) (l : List α) :
    (batchesOf batchSize l).flatten = l := by
  rw [batchesOf, flatten_range_batches]
  apply List.take_of_length_le
  have division := Nat.div_add_mod (l.length + batchSize - 1) batchSize
  have remainder := Nat.mod_lt (l.length + batchSize - 1) positive
  rw [Nat.mul_comm] at division
  omega

end Batches
