import Mathlib.Order.Lattice

/-!
# Windows without a gap

`Gapless start windows final`: the windows are half-open intervals, the first of which
begins at `start` and each of the others where the one before it ends; the last ends at
`final`.  So every point from `start` up to `final` lies in one of them, and of two windows
the one that ends later begins after the other.
-/

namespace GaplessWindows

universe u

variable {τ : Type u} [LinearOrder τ]

/-- Windows that lie end to end from one moment to another, none of them empty. -/
inductive Gapless : τ → List (τ × τ) → τ → Prop
  | nil {start : τ} : Gapless start [] start
  | cons {start next final : τ} {windows : List (τ × τ)} (lt : start < next)
      (rest : Gapless next windows final) : Gapless start ((start, next) :: windows) final

variable {start final point : τ} {windows : List (τ × τ)} {window other : τ × τ}

theorem Gapless.le (gapless : Gapless start windows final) : start ≤ final := by
  induction gapless with
  | nil => exact le_rfl
  | cons lt _ ih => exact lt.le.trans ih

theorem Gapless.bounds (gapless : Gapless start windows final) (mem : window ∈ windows) :
    start ≤ window.1 ∧ window.1 < window.2 := by
  induction gapless with
  | nil => exact absurd mem List.not_mem_nil
  | cons lt _ ih =>
      rcases List.mem_cons.mp mem with rfl | mem
      · exact ⟨le_rfl, lt⟩
      · exact ⟨lt.le.trans (ih mem).1, (ih mem).2⟩

/-- **Every point lies in a window.** -/
theorem Gapless.exists_containing (gapless : Gapless start windows final) (after : start ≤ point)
    (before : point < final) : ∃ window ∈ windows, window.1 ≤ point ∧ point < window.2 := by
  induction gapless with
  | nil => exact absurd before (not_lt.mpr after)
  | @cons start next final windows lt rest ih =>
      rcases lt_or_ge point next with inside | beyond
      · exact ⟨(start, next), List.mem_cons_self, after, inside⟩
      · obtain ⟨window, mem, contains⟩ := ih beyond before
        exact ⟨window, List.mem_cons_of_mem _ mem, contains⟩

/-- **The windows do not overlap.** -/
theorem Gapless.snd_le_fst (gapless : Gapless start windows final) (mem : window ∈ windows)
    (mem' : other ∈ windows) (later : window.2 < other.2) : window.2 ≤ other.1 := by
  induction gapless with
  | nil => exact absurd mem List.not_mem_nil
  | cons lt rest ih =>
      rcases List.mem_cons.mp mem with rfl | inside <;>
        rcases List.mem_cons.mp mem' with rfl | inside'
      · exact absurd later (lt_irrefl _)
      · exact (rest.bounds inside').1
      · -- a window behind the first one does not end before it
        have bounds := rest.bounds inside
        exact absurd (later.trans_le bounds.1) bounds.2.asymm
      · exact ih inside inside'

end GaplessWindows
