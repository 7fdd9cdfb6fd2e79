import UsdpIndexer.Analytics.YieldIntervals

/-!
# Ranges that can be tiled

The scan takes the interval that starts first and never takes one back.  Where intervals of
several lengths overlap it may so enter a dead end, and then it reports that contiguous
intervals are missing although the range can be tiled.  `complete_of_tileable_iff` is the
condition on the intervals under which that does not happen.
-/

namespace UsdpIndexer

namespace YieldRange

/-! ## Tilings -/

section

variable (options : YieldRange)

/-- From an end on, each interval starts within the tolerance of the end before and ends
beyond it, and the last one ends within the tolerance of the range's end. -/
def TilesFrom : ℤ → List YieldInterval → Prop
  | cursor, [] => |cursor - options.rangeEnd| ≤ options.tolerance
  | cursor, interval :: rest =>
      |interval.windowStart - cursor| ≤ options.tolerance ∧
        cursor + options.tolerance < interval.windowEnd ∧ TilesFrom interval.windowEnd rest

instance TilesFrom.decidable : (cursor : ℤ) → (rest : List YieldInterval) →
    Decidable (options.TilesFrom cursor rest)
  | _, [] => inferInstanceAs (Decidable (_ ≤ _))
  | cursor, interval :: rest =>
      have : Decidable (options.TilesFrom interval.windowEnd rest) :=
        TilesFrom.decidable interval.windowEnd rest
      inferInstanceAs (Decidable (|interval.windowStart - cursor| ≤ options.tolerance ∧
        cursor + options.tolerance < interval.windowEnd ∧ _))

/-- Some of the intervals, none of them invalid, tile the range. -/
def Tileable : Prop :=
  ∃ first rest, (∀ interval ∈ first :: rest, interval ∈ options.intervals ∧
      interval.reconciliationStatus ≠ .invalid) ∧
    |first.windowStart - options.rangeStart| ≤ options.tolerance ∧
    options.TilesFrom first.windowEnd rest

/-! ## Getting through -/

/-- From the cursor the end of the range can be reached. -/
inductive CanFinish : ℤ → Prop
  | last {cursor : ℤ} {interval : YieldInterval} (carries : options.CarriesOn cursor interval)
      (through : interval.windowEnd ≥ options.rangeEnd - options.tolerance) : CanFinish cursor
  | more {cursor : ℤ} {interval : YieldInterval} (carries : options.CarriesOn cursor interval)
      (rest : CanFinish interval.windowEnd) : CanFinish cursor

/-- The range can be finished from its start, and the interval that starts first never gives
this away. -/
structure NeverAstray : Prop where
  start : options.CanFinish options.rangeStart
  kept : ∀ cursor interval, options.Reached cursor → options.CanFinish cursor →
    options.Next cursor interval →
      interval.windowEnd ≥ options.rangeEnd - options.tolerance ∨
        options.CanFinish interval.windowEnd

end

variable {options : YieldRange}

theorem CanFinish.exists_carriesOn {cursor : ℤ} (can : options.CanFinish cursor) :
    ∃ interval, options.CarriesOn cursor interval := by
  cases can with
  | last carries => exact ⟨_, carries⟩
  | more carries => exact ⟨_, carries⟩

/-- A chain that does not go astray gets through. -/
theorem Chain.through {cursor final : ℤ} {taken : List YieldInterval}
    (chain : options.Chain cursor taken final) (never : options.NeverAstray)
    (reached : options.Reached cursor) (can : options.CanFinish cursor) :
    taken ≠ [] ∧ final ≥ options.rangeEnd - options.tolerance := by
  induction chain with
  | stuck none =>
      obtain ⟨interval, carries⟩ := can.exists_carriesOn
      exact absurd carries (none interval)
  | last next through => exact ⟨List.cons_ne_nil _ _, through⟩
  | more next short chain ih =>
      have on := (never.kept _ _ reached can next).resolve_left (not_le.mpr short)
      exact ⟨List.cons_ne_nil _ _, (ih (reached.next next short) on).2⟩

/-- A chain that is stuck before the end has not got through. -/
theorem Chain.ne_nil {cursor final : ℤ} {taken : List YieldInterval}
    (chain : options.Chain cursor taken final)
    (short : cursor < options.rangeEnd - options.tolerance)
    (through : final ≥ options.rangeEnd - options.tolerance) : taken ≠ [] := by
  rintro rfl
  cases chain
  exact absurd through (not_le.mpr short)

/-- From all its cursors a chain that gets through can be finished. -/
theorem Chain.canFinish {cursor final : ℤ} {taken : List YieldInterval}
    (chain : options.Chain cursor taken final) (nonempty : taken ≠ [])
    (through : final ≥ options.rangeEnd - options.tolerance) : options.CanFinish cursor := by
  induction chain with
  | stuck none => exact absurd rfl nonempty
  | last next through => exact .last next.toCarriesOn through
  | @more _ _ interval rest next short chain ih =>
      exact .more next.toCarriesOn (ih (chain.ne_nil short through) through)

/-- **When a result is complete**, in terms of the stored intervals. -/
theorem complete_iff_neverAstray (options : YieldRange) :
    (aggregateContiguousYieldIntervals options).complete = true ↔ options.NeverAstray := by
  obtain ⟨chain, -⟩ := selectIntervals_chain options
  rw [complete_iff]
  constructor
  · rintro ⟨nonempty, through⟩
    refine ⟨chain.canFinish nonempty through, fun cursor interval reached _ next => ?_⟩
    by_cases short : interval.windowEnd < options.rangeEnd - options.tolerance
    · -- the chain goes on from there
      right
      obtain ⟨front, rest, split, tail⟩ := (reached.next next short).chain chain
      exact tail.canFinish (tail.ne_nil short through) through
    · exact .inl (not_lt.mp short)
  · intro never
    exact chain.through never .start never.start

/-- **When a tileable range is found**: if it can be finished from its start, and the interval
that starts first never leads astray. -/
theorem complete_of_tileable_iff (options : YieldRange) :
    (options.Tileable → (aggregateContiguousYieldIntervals options).complete = true) ↔
      (options.Tileable → options.NeverAstray) := by
  rw [complete_iff_neverAstray]

/-! ### A dead end

Two weeks, in minutes of 60000 milliseconds: a week and the next one tile them, and there is an
interval of five days that has been pinned three minutes earlier. -/

/-- An interval in minutes after the start of the range. -/
def minutes (id : ℕ) (windowStart windowEnd : ℤ) : YieldInterval :=
  ⟨id, 8453, windowStart * 60000, windowEnd * 60000, 100, .verified⟩

/-- The three intervals. -/
def twoWeeks : YieldRange where
  intervals := [minutes 1 (-3) 7197, minutes 2 0 10080, minutes 3 10080 20160]
  rangeStart := 0
  rangeEnd := 20160 * 60000
  toleranceMilliseconds := none

theorem tileable_twoWeeks : twoWeeks.Tileable :=
  ⟨minutes 2 0 10080, [minutes 3 10080 20160], by decide, by decide, by decide⟩

/-- **The range is tiled by two intervals, and none are found.** -/
theorem tileable_fails_twoWeeks :
    ¬ ∀ options : YieldRange, 0 ≤ options.tolerance →
      (∀ interval ∈ options.intervals, interval.reconciliationStatus ≠ .invalid) →
      options.Tileable → (aggregateContiguousYieldIntervals options).complete = true := by
  intro found
  have complete := found twoWeeks (by decide) (by decide) tileable_twoWeeks
  have stuck : aggregateContiguousYieldIntervals twoWeeks
      = ⟨.unavailable, false, false, none, [1], some (7197 * 60000),
        some "contiguous_yield_intervals_missing"⟩ := by decide
  rw [stuck] at complete
  cases complete

end YieldRange

end UsdpIndexer
