import Mathlib.Algebra.Order.Group.Abs
import Mathlib.Algebra.Order.Group.Int
import UsdpIndexer.Analytics.YieldReconciliation

/-!
# Adding up the yield of adjacent intervals

`aggregateContiguousYieldIntervals` of `analytics/range-analytics.ts`: of the stored
intervals that touch a range, some are chosen that follow one another within a
tolerance, and their yields are added up.

The scan over the sorted intervals computes a **greedy chain**: from the start of the
range, and then from the end of each chosen interval, the next one is the interval
that starts within the tolerance, ends beyond it, and of these starts first and, at
one start, ends last.  `Next`, `Reached` and `Chain` say this of the set of intervals,
without the sort and the loop, and `selectIntervals_chain` that the loop computes it.

At the start of the range the tolerance holds on both sides.  At its end it does
not: the chain is complete as soon as it comes near enough *or goes past* it.
`complete_tiles_iff` says that this is the only way in which a complete result fails
to tile the range.
-/

namespace UsdpIndexer

open StableOrder

/-- A stored interval; times in milliseconds. -/
structure YieldInterval where
  id : ℕ
  chainId : ℕ
  windowStart : ℤ
  windowEnd : ℤ
  nativeYpo : ℤ
  reconciliationStatus : ReconciliationStatus
deriving DecidableEq, Repr

/-- The intervals that may cover a range, and how far two may lie apart. -/
structure YieldRange where
  intervals : List YieldInterval
  rangeStart : ℤ
  rangeEnd : ℤ
  toleranceMilliseconds : Option ℤ
deriving Repr

/-- Whether the intervals cover the range, and whether all of them are verified. -/
inductive AggregateStatus
  | verified
  | candidate
  | unavailable
deriving DecidableEq, Repr

/-- What the intervals of a range come to. -/
structure YieldAggregate where
  status : AggregateStatus
  complete : Bool
  verified : Bool
  nativeYpo : Option ℤ
  intervalIds : List ℕ
  coveredThrough : Option ℤ
  reason : Option String
deriving DecidableEq, Repr

/-! ## The scan -/

namespace YieldRange

variable (options : YieldRange)

/-- How far two intervals may lie apart; five minutes unless it is said. -/
def tolerance : ℤ := options.toleranceMilliseconds.getD (5 * 60000)

/-- The filter in front of the sort. -/
def Eligible (interval : YieldInterval) : Prop :=
  interval.reconciliationStatus ≠ .invalid ∧ interval.windowEnd > options.rangeStart ∧
    interval.windowStart < options.rangeEnd

instance (interval : YieldInterval) : Decidable (options.Eligible interval) :=
  inferInstanceAs (Decidable (_ ∧ _))

/-- The comparator of the sort: earlier start first, then later end. -/
def compareIntervals : YieldInterval → YieldInterval → ℤ :=
  lexCompare (·.windowStart) fun interval => -interval.windowEnd

/-- The intervals that are looked at, in order. -/
def ordered : List YieldInterval :=
  sortBy compareIntervals (options.intervals.filter fun interval => options.Eligible interval)

/-- The loop: what is selected, and where the cursor ends. -/
def scan : List YieldInterval → List YieldInterval → ℤ → List YieldInterval × ℤ
  | [], selected, cursor => (selected, cursor)
  | interval :: rest, selected, cursor =>
      let start := interval.windowStart
      let stop := interval.windowEnd
      -- it does not end beyond the cursor
      if stop ≤ cursor + options.tolerance then scan rest selected cursor
      else if |start - cursor| > options.tolerance then
        -- it starts too late, and so do all that follow
        if start > cursor + options.tolerance then (selected, cursor)
        else scan rest selected cursor
      else if stop ≥ options.rangeEnd - options.tolerance then (selected ++ [interval], stop)
      else scan rest (selected ++ [interval]) stop

/-- The intervals that are taken, and the moment up to which they go. -/
def selectIntervals : List YieldInterval × ℤ := options.scan options.ordered [] options.rangeStart

end YieldRange

/-- The sum over the intervals that are taken, if they go up to the end. -/
def aggregateContiguousYieldIntervals (options : YieldRange) : YieldAggregate :=
  let selected := options.selectIntervals.1
  let cursor := options.selectIntervals.2
  let complete : Bool := selected.length > 0 ∧ cursor ≥ options.rangeEnd - options.tolerance
  let verified : Bool := complete && selected.all (·.reconciliationStatus = .verified)
  { status := if complete then if verified then .verified else .candidate else .unavailable
    complete := complete
    verified := verified
    nativeYpo :=
      if complete then some (selected.foldl (fun total interval => total + interval.nativeYpo) 0)
      else none
    intervalIds := selected.map (·.id)
    coveredThrough := selected.getLast?.map (·.windowEnd)
    reason := if complete then none else some "contiguous_yield_intervals_missing" }

/-! ## The greedy chain -/

namespace YieldRange

variable (options : YieldRange)

/-- The interval carries the range on from the cursor. -/
structure CarriesOn (cursor : ℤ) (interval : YieldInterval) : Prop where
  mem : interval ∈ options.intervals
  eligible : options.Eligible interval
  near : |interval.windowStart - cursor| ≤ options.tolerance
  beyond : cursor + options.tolerance < interval.windowEnd

/-- Of the intervals that carry on from the cursor it starts first, and of those that
start then it ends last. -/
structure Next (cursor : ℤ) (interval : YieldInterval) : Prop
    extends options.CarriesOn cursor interval where
  first : ∀ other, options.CarriesOn cursor other →
    compareIntervals interval other ≤ 0

/-- The ends that the chain goes through before it is complete. -/
inductive Reached : ℤ → Prop
  | start : Reached options.rangeStart
  | next {cursor : ℤ} {interval : YieldInterval} (reached : Reached cursor)
      (next : options.Next cursor interval)
      (short : interval.windowEnd < options.rangeEnd - options.tolerance) :
      Reached interval.windowEnd

/-- The chain from a cursor: the intervals, and the end of the last one. -/
inductive Chain : ℤ → List YieldInterval → ℤ → Prop
  | stuck {cursor : ℤ} (none : ∀ interval, ¬ options.CarriesOn cursor interval) :
      Chain cursor [] cursor
  | last {cursor : ℤ} {interval : YieldInterval} (next : options.Next cursor interval)
      (through : interval.windowEnd ≥ options.rangeEnd - options.tolerance) :
      Chain cursor [interval] interval.windowEnd
  | more {cursor final : ℤ} {interval : YieldInterval} {rest : List YieldInterval}
      (next : options.Next cursor interval)
      (short : interval.windowEnd < options.rangeEnd - options.tolerance)
      (chain : Chain interval.windowEnd rest final) :
      Chain cursor (interval :: rest) final

/-- The chain runs into an interval that sticks out of the range at its end. -/
def Overhangs : Prop :=
  ∃ cursor interval, options.Reached cursor ∧ options.Next cursor interval ∧
    interval.windowEnd > options.rangeEnd + options.tolerance

variable {options : YieldRange}

/-! ### The chain is determined -/

theorem compareIntervals_nonpos_iff (a b : YieldInterval) :
    compareIntervals a b ≤ 0 ↔ a.windowStart < b.windowStart ∨
      (a.windowStart = b.windowStart ∧ b.windowEnd ≤ a.windowEnd) := by
  rw [compareIntervals, lexCompare_nonpos_iff]
  omega

theorem CarriesOn.tolerance_nonneg {cursor : ℤ} {interval : YieldInterval}
    (carries : options.CarriesOn cursor interval) : 0 ≤ options.tolerance :=
  (abs_nonneg _).trans carries.near

theorem CarriesOn.lt_windowEnd {cursor : ℤ} {interval : YieldInterval}
    (carries : options.CarriesOn cursor interval) : cursor < interval.windowEnd := by
  have := carries.tolerance_nonneg
  have := carries.beyond
  omega

/-- Two next intervals end together. -/
theorem Next.windowEnd_eq {cursor : ℤ} {a b : YieldInterval} (nextA : options.Next cursor a)
    (nextB : options.Next cursor b) : a.windowEnd = b.windowEnd := by
  have hab := (compareIntervals_nonpos_iff a b).mp (nextA.first b nextB.toCarriesOn)
  have hba := (compareIntervals_nonpos_iff b a).mp (nextB.first a nextA.toCarriesOn)
  omega

/-- Where the chain can go on it does. -/
theorem Chain.of_next {cursor final : ℤ} {taken : List YieldInterval}
    {interval : YieldInterval} (chain : options.Chain cursor taken final)
    (next : options.Next cursor interval) :
    ∃ first rest, taken = first :: rest ∧ first.windowEnd = interval.windowEnd ∧
      (interval.windowEnd < options.rangeEnd - options.tolerance →
        options.Chain interval.windowEnd rest final) ∧
      (interval.windowEnd ≥ options.rangeEnd - options.tolerance →
        rest = [] ∧ final = interval.windowEnd) := by
  cases chain with
  | stuck none => exact absurd next.toCarriesOn (none interval)
  | @last _ first next' through =>
      have same := next'.windowEnd_eq next
      exact ⟨first, [], rfl, same, fun short => absurd through (by omega), fun _ => ⟨rfl, same⟩⟩
  | @more _ _ first rest next' short chain =>
      have same := next'.windowEnd_eq next
      exact ⟨first, rest, rfl, same, fun _ => same ▸ chain, fun through => absurd short (by omega)⟩

/-- The chain from the start of the range goes through every end that is reached. -/
theorem Reached.chain {cursor final : ℤ} {taken : List YieldInterval}
    (reached : options.Reached cursor)
    (chain : options.Chain options.rangeStart taken final) :
    ∃ front rest, taken = front ++ rest ∧ options.Chain cursor rest final := by
  induction reached with
  | start => exact ⟨[], taken, rfl, chain⟩
  | next _ next short ih =>
      obtain ⟨front, rest, rfl, tail⟩ := ih
      obtain ⟨first, rest, rfl, -, onward, -⟩ := tail.of_next next
      exact ⟨front ++ [first], rest, by simp, onward short⟩

/-! ### What a chain is like -/

/-- From the cursor on, each interval starts within the tolerance of the end before. -/
def Adjacent (options : YieldRange) : ℤ → List YieldInterval → Prop
  | _, [] => True
  | cursor, interval :: rest =>
      |interval.windowStart - cursor| ≤ options.tolerance ∧
        Adjacent options interval.windowEnd rest

theorem Chain.adjacent {cursor final : ℤ} {taken : List YieldInterval}
    (chain : options.Chain cursor taken final) : options.Adjacent cursor taken := by
  induction chain with
  | stuck none => trivial
  | last next through => exact ⟨next.near, trivial⟩
  | more next short chain ih => exact ⟨next.near, ih⟩

theorem Chain.eligible {cursor final : ℤ} {taken : List YieldInterval}
    (chain : options.Chain cursor taken final) :
    ∀ interval ∈ taken, options.Eligible interval := by
  induction chain with
  | stuck none => simp
  | last next through => simpa using next.eligible
  | more next short chain ih => simpa using ⟨next.eligible, ih⟩

/-- The ends go up, so no interval comes twice. -/
theorem Chain.pairwise_lt {cursor final : ℤ} {taken : List YieldInterval}
    (chain : options.Chain cursor taken final) :
    (∀ interval ∈ taken, cursor < interval.windowEnd) ∧
      taken.Pairwise fun a b => a.windowEnd < b.windowEnd := by
  induction chain with
  | stuck none => simp
  | last next through => simpa using next.lt_windowEnd
  | more next short chain ih =>
      obtain ⟨above, ascending⟩ := ih
      have below := next.lt_windowEnd
      refine ⟨?_, List.pairwise_cons.mpr ⟨above, ascending⟩⟩
      intro interval mem
      rcases List.mem_cons.mp mem with rfl | mem
      · exact below
      · exact below.trans (above interval mem)

theorem Chain.getLast? {cursor final : ℤ} {taken : List YieldInterval}
    (chain : options.Chain cursor taken final) (nonempty : taken ≠ []) :
    taken.getLast?.map (·.windowEnd) = some final := by
  induction chain with
  | stuck none => exact absurd rfl nonempty
  | last next through => rfl
  | @more _ _ interval rest next short chain ih =>
      cases rest with
      | nil => cases chain; rfl
      | cons second rest => simpa using ih (by simp)

/-- A chain that goes past the end of the range has run into an overhanging interval. -/
theorem Chain.overhangs {cursor final : ℤ} {taken : List YieldInterval}
    (chain : options.Chain cursor taken final) (reached : options.Reached cursor)
    (nonempty : taken ≠ []) (past : final > options.rangeEnd + options.tolerance) :
    options.Overhangs := by
  induction chain with
  | stuck none => exact absurd rfl nonempty
  | last next through => exact ⟨_, _, reached, next, past⟩
  | @more _ _ interval rest next short chain ih =>
      have reached' := reached.next next short
      cases rest with
      | cons second rest => exact ih reached' (by simp) past
      | nil =>
          -- a chain that is stuck before the end of the range has not gone past it
          have := next.tolerance_nonneg
          cases chain
          omega

/-- And such an interval is where the chain ends. -/
theorem Overhangs.past {final : ℤ} {taken : List YieldInterval} (overhangs : options.Overhangs)
    (chain : options.Chain options.rangeStart taken final) :
    taken ≠ [] ∧ final > options.rangeEnd + options.tolerance := by
  obtain ⟨cursor, interval, reached, next, past⟩ := overhangs
  obtain ⟨front, rest, rfl, tail⟩ := reached.chain chain
  obtain ⟨first, rest, rfl, -, -, ends⟩ := tail.of_next next
  have := next.tolerance_nonneg
  obtain ⟨rfl, rfl⟩ := ends (by omega)
  exact ⟨by simp, past⟩

/-! ### The scan computes it -/

/-- The interval can still carry on from this cursor or a later one. -/
structure StillOpen (options : YieldRange) (cursor : ℤ) (interval : YieldInterval) : Prop where
  mem : interval ∈ options.intervals
  eligible : options.Eligible interval
  near : cursor - options.tolerance ≤ interval.windowStart
  beyond : cursor + options.tolerance < interval.windowEnd

theorem CarriesOn.stillOpen {cursor : ℤ} {interval : YieldInterval}
    (carries : options.CarriesOn cursor interval) : options.StillOpen cursor interval :=
  ⟨carries.mem, carries.eligible, by have := abs_le.mp carries.near; omega, carries.beyond⟩

theorem StillOpen.mono {cursor cursor' : ℤ} {interval : YieldInterval}
    (stillOpen : options.StillOpen cursor' interval) (le : cursor ≤ cursor') :
    options.StillOpen cursor interval where
  mem := stillOpen.mem
  eligible := stillOpen.eligible
  near := by have := stillOpen.near; omega
  beyond := by have := stillOpen.beyond; omega

/-- **The loop computes the chain**, as long as what is left to scan is sorted and holds
every interval that is still open. -/
theorem scan_chain (options : YieldRange) {rest : List YieldInterval} :
    ∀ (selected : List YieldInterval) (cursor : ℤ),
      (rest.Pairwise fun a b => compareIntervals a b ≤ 0) →
      (∀ interval ∈ rest, interval ∈ options.intervals ∧ options.Eligible interval) →
      (∀ interval, options.StillOpen cursor interval → interval ∈ rest) →
      ∃ taken final, options.scan rest selected cursor = (selected ++ taken, final) ∧
        options.Chain cursor taken final ∧ taken.Sublist rest := by
  induction rest with
  | nil =>
      intro selected cursor _ _ holds
      refine ⟨[], cursor, by simp [scan], .stuck fun interval carries => ?_, .slnil⟩
      exact absurd (holds interval carries.stillOpen) (by simp)
  | cons interval rest ih =>
      intro selected cursor sorted inside holds
      obtain ⟨first, sorted⟩ := List.pairwise_cons.mp sorted
      obtain ⟨⟨mem, eligible⟩, inside⟩ := List.forall_mem_cons.mp inside
      -- what is still open, unless it is the interval at hand, is further on
      have later (other : YieldInterval) (stillOpen : options.StillOpen cursor other) :
          other = interval ∨ other ∈ rest := List.mem_cons.mp (holds other stillOpen)
      have skip (closed : ¬ options.StillOpen cursor interval) :
          ∃ taken final, options.scan rest selected cursor = (selected ++ taken, final) ∧
            options.Chain cursor taken final ∧ taken.Sublist (interval :: rest) := by
        obtain ⟨taken, final, run, chain, sublist⟩ := ih selected cursor sorted inside
          fun other stillOpen =>
            (later other stillOpen).resolve_left fun same => closed (same ▸ stillOpen)
        exact ⟨taken, final, run, chain, sublist.cons _⟩
      rw [scan]
      by_cases short : interval.windowEnd ≤ cursor + options.tolerance
      · rw [if_pos short]
        exact skip fun stillOpen => absurd stillOpen.beyond (by omega)
      rw [if_neg short]
      by_cases far : |interval.windowStart - cursor| > options.tolerance
      · rw [if_pos far]
        by_cases gap : interval.windowStart > cursor + options.tolerance
        · -- the rest starts later still
          rw [if_pos gap]
          refine ⟨[], cursor, by simp, .stuck fun other carries => ?_, List.nil_sublist _⟩
          have near := abs_le.mp carries.near
          rcases later other carries.stillOpen with rfl | mem
          · omega
          · have := (compareIntervals_nonpos_iff _ _).mp (first other mem)
            omega
        · rw [if_neg gap]
          refine skip fun stillOpen => absurd far (not_lt.mpr (abs_le.mpr ?_))
          have := stillOpen.near
          omega
      · rw [if_neg far]
        have carries : options.CarriesOn cursor interval :=
          ⟨mem, eligible, not_lt.mp far, by omega⟩
        have next : options.Next cursor interval := by
          refine ⟨carries, fun other carries' => ?_⟩
          rcases later other carries'.stillOpen with rfl | mem
          · rw [compareIntervals_nonpos_iff]
            omega
          · exact first other mem
        by_cases through : interval.windowEnd ≥ options.rangeEnd - options.tolerance
        · rw [if_pos through]
          exact ⟨[interval], _, rfl, .last next through, (List.nil_sublist _).cons_cons _⟩
        · rw [if_neg through]
          obtain ⟨taken, final, run, chain, sublist⟩ :=
            ih (selected ++ [interval]) interval.windowEnd sorted inside
              fun other stillOpen => by
                have positive := carries.lt_windowEnd
                apply (later other (stillOpen.mono positive.le)).resolve_left
                rintro rfl
                have := carries.tolerance_nonneg
                have := stillOpen.beyond
                omega
          exact ⟨interval :: taken, final, by rw [run]; simp, .more next (by omega) chain,
            sublist.cons_cons _⟩

theorem pairwise_ordered (options : YieldRange) :
    options.ordered.Pairwise fun a b => compareIntervals a b ≤ 0 := by
  have orders : OrdersBy compareIntervals fun interval =>
      toLex (interval.windowStart, -interval.windowEnd) := ordersBy_lexCompare _ _
  exact (pairwise_sortBy orders _).imp fun le => (orders _ _).mpr le

theorem mem_ordered {interval : YieldInterval} :
    interval ∈ options.ordered ↔ interval ∈ options.intervals ∧ options.Eligible interval := by
  simp [ordered]

/-- **What is selected** is the chain from the start of the range, and each stored
interval is selected at most as often as it is stored. -/
theorem selectIntervals_chain (options : YieldRange) :
    options.Chain options.rangeStart options.selectIntervals.1 options.selectIntervals.2 ∧
      options.selectIntervals.1.Subperm options.intervals := by
  obtain ⟨taken, final, run, chain, sublist⟩ :=
    scan_chain options [] options.rangeStart
      (pairwise_ordered options) (fun _ mem => mem_ordered.mp mem)
      fun _ stillOpen => mem_ordered.mpr ⟨stillOpen.mem, stillOpen.eligible⟩
  rw [selectIntervals, run]
  refine ⟨chain, sublist.subperm.trans ?_⟩
  exact (perm_sortBy _ _).subperm.trans List.filter_sublist.subperm

/-! ## What a complete result is -/

/-- The intervals tile the range within the tolerance. -/
structure Tiles (options : YieldRange) (selected : List YieldInterval) : Prop where
  adjacent : options.Adjacent options.rangeStart selected
  ends : ∃ last, selected.getLast? = some last ∧
    |last.windowEnd - options.rangeEnd| ≤ options.tolerance
  valid : ∀ interval ∈ selected, interval.reconciliationStatus ≠ .invalid
  once : selected.Nodup
  stored : selected.Subperm options.intervals

/-- The result is the sum over intervals that tile the range. -/
def SumsTiling (options : YieldRange) (result : YieldAggregate) : Prop :=
  options.Tiles options.selectIntervals.1 ∧
    result.intervalIds = options.selectIntervals.1.map (·.id) ∧
    result.nativeYpo = some (options.selectIntervals.1.map (·.nativeYpo)).sum

theorem complete_iff (options : YieldRange) :
    (aggregateContiguousYieldIntervals options).complete = true ↔
      options.selectIntervals.1 ≠ [] ∧
        options.selectIntervals.2 ≥ options.rangeEnd - options.tolerance := by
  simp [aggregateContiguousYieldIntervals, List.length_pos_iff]

theorem nativeYpo_of_complete (options : YieldRange)
    (complete : (aggregateContiguousYieldIntervals options).complete = true) :
    (aggregateContiguousYieldIntervals options).nativeYpo
      = some (options.selectIntervals.1.map (·.nativeYpo)).sum := by
  rw [List.sum_eq_foldl, List.foldl_map]
  exact if_pos complete

/-- **When a complete result tiles the range**: exactly if the greedy chain does not run
into an interval that ends more than the tolerance after the range. -/
theorem complete_tiles_iff (options : YieldRange) :
    ((aggregateContiguousYieldIntervals options).complete = true →
      options.SumsTiling (aggregateContiguousYieldIntervals options)) ↔
    ¬ options.Overhangs := by
  obtain ⟨chain, stored⟩ := selectIntervals_chain options
  constructor
  · -- the result is complete, and its last interval ends too late
    intro tiles overhangs
    obtain ⟨nonempty, past⟩ := overhangs.past chain
    obtain ⟨_, _, _, next, _⟩ := overhangs
    have tolerance := next.tolerance_nonneg
    have complete := (complete_iff options).mpr ⟨nonempty, by omega⟩
    obtain ⟨last, isLast, near⟩ := (tiles complete).1.ends
    have final := chain.getLast? nonempty
    rw [isLast, Option.map_some, Option.some.injEq] at final
    have := abs_le.mp near
    omega
  · intro within complete
    obtain ⟨nonempty, through⟩ := (complete_iff options).mp complete
    have final := chain.getLast? nonempty
    obtain ⟨last, isLast, lastEnd⟩ := Option.map_eq_some_iff.mp final
    have inside : options.selectIntervals.2 ≤ options.rangeEnd + options.tolerance := by
      by_contra past
      exact within (chain.overhangs .start nonempty (not_le.mp past))
    refine ⟨⟨chain.adjacent, ⟨last, isLast, abs_le.mpr ⟨?_, ?_⟩⟩, ?_, ?_, stored⟩, rfl,
      nativeYpo_of_complete options complete⟩
    · omega
    · omega
    · exact fun interval mem => (chain.eligible interval mem).1
    · exact chain.pairwise_lt.2.imp fun lt same => absurd lt (by rw [same]; exact lt_irrefl _)

/-- One day is asked for, and one interval of eight days is stored. -/
def eightDaysForOne : YieldRange where
  intervals := [⟨1, 1, 0, 8 * 86400000, 800, .verified⟩]
  rangeStart := 0
  rangeEnd := 86400000
  toleranceMilliseconds := none

/-- **Yield of days nobody asked for**: the whole eight days, and verified. -/
theorem eightDaysForOne_complete :
    aggregateContiguousYieldIntervals eightDaysForOne
      = ⟨.verified, true, true, some 800, [1], some (8 * 86400000), none⟩ ∧
    ¬ eightDaysForOne.SumsTiling (aggregateContiguousYieldIntervals eightDaysForOne) := by
  refine ⟨by decide, fun tiling => ?_⟩
  obtain ⟨last, isLast, near⟩ := tiling.1.ends
  have selected : eightDaysForOne.selectIntervals.1.getLast?
      = some ⟨1, 1, 0, 8 * 86400000, 800, .verified⟩ := by decide
  rw [selected, Option.some.injEq] at isLast
  subst isLast
  exact absurd near (by decide)

end YieldRange

end UsdpIndexer
