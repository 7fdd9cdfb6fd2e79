import UsdpIndexer.Indexer.Ingest

/-!
# Counting log requests

`lifetimeActivityRequestCount` of `analytics/lifetime-activity.ts` tells an
operator how many log requests a range will take.  `ingestLogs` plans those
requests one by one, each from the block behind the previous one, and
`planRanges` is that planning with no bound on how many ranges it hands out.

The planning stops, its ranges partition the range they were planned for, and
the estimate is their number.
-/

namespace UsdpIndexer

open IntegerCover

/-- How many requests of `chunkSize` blocks a range takes. -/
def lifetimeActivityRequestCount (fromBlock toBlock chunkSize : ℤ) : Except JsError ℤ :=
  if toBlock < fromBlock then .ok 0
  else if chunkSize = 0 then .error ⟨"Division by zero"⟩
  else
    let blocks := toBlock - fromBlock + 1
    .ok (Int.tdiv (blocks + chunkSize - 1) chunkSize)

/-- The ranges `planBlockRange` plans from `plannedFrom` on until `toBlock` is passed. -/
def planRanges (toBlock chunkSize plannedFrom : ℤ) : Except JsError (List BlockRange) :=
  if plannedFrom ≤ toBlock then
    match _planned : planBlockRange plannedFrom toBlock chunkSize with
    | .error error => .error error
    | .ok range =>
        match planRanges toBlock chunkSize (range.toBlock + 1) with
        | .error error => .error error
        | .ok ranges => .ok (range :: ranges)
  else .ok []
termination_by (toBlock + 1 - plannedFrom).toNat
decreasing_by
  obtain ⟨positive, -, -, ends⟩ := planBlockRange_eq_ok.mp _planned
  omega

/-! ## Rounding up -/

/-- Nothing takes no request. -/
theorem ceil_eq_zero {chunkSize : ℤ} (positive : 1 ≤ chunkSize) :
    (0 + chunkSize - 1) / chunkSize = 0 :=
  Int.ediv_eq_zero_of_lt (by omega) (by omega)

/-- What fits into one chunk takes one request. -/
theorem ceil_eq_one {blocks chunkSize : ℤ} (any : 1 ≤ blocks) (fits : blocks ≤ chunkSize) :
    (blocks + chunkSize - 1) / chunkSize = 1 := by
  have low : 1 ≤ (blocks + chunkSize - 1) / chunkSize :=
    (Int.le_ediv_iff_mul_le (by omega)).mpr (by omega)
  have high : (blocks + chunkSize - 1) / chunkSize < 2 :=
    (Int.ediv_lt_iff_lt_mul (by omega)).mpr (by omega)
  omega

/-- A full chunk takes one request off what is left. -/
theorem ceil_sub_chunk {blocks chunkSize : ℤ} (positive : 1 ≤ chunkSize) :
    (blocks + chunkSize - 1) / chunkSize
      = (blocks - chunkSize + chunkSize - 1) / chunkSize + 1 := by
  have split : blocks + chunkSize - 1 = blocks - chunkSize + chunkSize - 1 + chunkSize := by
    omega
  rw [split, Int.add_ediv_of_dvd_right (dvd_refl _), Int.ediv_self (by omega)]

theorem lifetimeActivityRequestCount_eq {fromBlock toBlock chunkSize : ℤ}
    (ordered : fromBlock ≤ toBlock) (positive : 1 ≤ chunkSize) :
    lifetimeActivityRequestCount fromBlock toBlock chunkSize
      = .ok ((toBlock + 1 - fromBlock + chunkSize - 1) / chunkSize) := by
  unfold lifetimeActivityRequestCount
  rw [if_neg (by omega), if_neg (by omega)]
  simp only
  rw [Int.tdiv_eq_ediv_of_nonneg (by omega)]
  congr 3
  omega

/-! ## The planning -/

/-- What is planned, for a positive chunk size: it tiles what is left, in as many
ranges as the division says. -/
theorem planRanges_spec {toBlock chunkSize : ℤ} (positive : 1 ≤ chunkSize) :
    ∀ plannedFrom ≤ toBlock + 1, ∃ ranges,
      planRanges toBlock chunkSize plannedFrom = .ok ranges ∧
        Tiles BlockRange.fromBlock BlockRange.toBlock plannedFrom ranges (toBlock + 1) ∧
        (ranges.length : ℤ) = (toBlock + 1 - plannedFrom + chunkSize - 1) / chunkSize := by
  intro plannedFrom
  induction plannedFrom using planRanges.induct toBlock chunkSize with
  | case1 plannedFrom left error planned =>
      -- the planner refuses only empty ranges and sizes below one
      unfold planBlockRange at planned
      rw [if_neg (by omega), if_neg (by omega)] at planned
      cases planned
  | case2 plannedFrom left range planned error rest ih =>
      obtain ⟨-, -, -, ends⟩ := planBlockRange_eq_ok.mp planned
      obtain ⟨ranges, others, -⟩ := ih (by omega)
      rw [rest] at others
      cases others
  | case3 plannedFrom left range planned ranges rest ih =>
      intro _
      obtain ⟨-, -, starts, ends⟩ := planBlockRange_eq_ok.mp planned
      obtain ⟨ranges', others, tiles, length⟩ := ih (by omega)
      rw [rest] at others
      cases others
      refine ⟨range :: ranges, ?_, ⟨starts, by omega, tiles⟩, ?_⟩
      · rw [planRanges, if_pos left, planned]
        simp only [rest]
      · rw [List.length_cons, Nat.cast_succ, length]
        by_cases last : toBlock + 1 - plannedFrom ≤ chunkSize
        · -- the last range is clipped, and nothing is left behind it
          have stop : range.toBlock = toBlock := by omega
          rw [stop, ceil_eq_one (by omega) last, sub_self, ceil_eq_zero positive]
          rfl
        · have stop : toBlock + 1 - (range.toBlock + 1)
              = toBlock + 1 - plannedFrom - chunkSize := by omega
          rw [stop, ← ceil_sub_chunk positive]
  | case4 plannedFrom done =>
      intro bounded
      have stop : plannedFrom = toBlock + 1 := by omega
      refine ⟨[], ?_, ?_, ?_⟩
      · rw [planRanges, if_neg done]
      · rw [stop]
        rfl
      · rw [stop, sub_self, ceil_eq_zero positive]
        rfl

/-- Where the bound on a batch is not reached, the indexer's own loop plans the
same ranges. -/
theorem planBatch_eq_planRanges {toBlock chunkSize : ℤ} :
    ∀ {fetchConcurrency : ℕ} {plannedFrom : ℤ} {ranges : List BlockRange},
      planRanges toBlock chunkSize plannedFrom = .ok ranges →
        ranges.length ≤ fetchConcurrency →
          planBatch toBlock chunkSize fetchConcurrency plannedFrom = .ok ranges := by
  intro fetchConcurrency
  induction fetchConcurrency with
  | zero =>
      intro plannedFrom ranges _ bound
      rw [List.length_eq_zero_iff.mp (Nat.le_zero.mp bound)]
      rfl
  | succ fetchConcurrency ih =>
      intro plannedFrom ranges planned bound
      rw [planRanges] at planned
      rw [planBatch]
      split at planned
      · rename_i left
        rw [if_pos left]
        cases first : planBlockRange plannedFrom toBlock chunkSize with
        | error error =>
            rw [first] at planned
            cases planned
        | ok range =>
            rw [first] at planned
            simp only at planned
            cases rest : planRanges toBlock chunkSize (range.toBlock + 1) with
            | error error =>
                rw [rest] at planned
                cases planned
            | ok others =>
                rw [rest] at planned
                cases planned
                have same := ih rest (Nat.le_of_succ_le_succ bound)
                change (planBatch toBlock chunkSize fetchConcurrency (range.toBlock + 1) >>= _) = _
                rw [same]
                rfl
      · rename_i done
        cases planned
        rw [if_neg done]

/-- **The request estimate is exact.**  Planning from the first block on stops,
what it plans tiles the range, so that every block of it and no other lies in a
planned range and in one only, and the estimate is the number of those ranges.
The indexer plans the same ranges wherever it plans them in one batch. -/
theorem lifetimeActivityRequestCount_exact {fromBlock toBlock chunkSize : ℤ}
    (ordered : fromBlock ≤ toBlock) (positive : 1 ≤ chunkSize) :
    ∃ ranges, planRanges toBlock chunkSize fromBlock = .ok ranges ∧
      Tiles BlockRange.fromBlock BlockRange.toBlock fromBlock ranges (toBlock + 1) ∧
      (∀ block, Covered ranges block ↔ fromBlock ≤ block ∧ block ≤ toBlock) ∧
      (ranges.Pairwise fun a b => a.toBlock < b.fromBlock) ∧
      lifetimeActivityRequestCount fromBlock toBlock chunkSize = .ok (ranges.length : ℤ) ∧
      ∀ fetchConcurrency, ranges.length ≤ fetchConcurrency →
        planBatch toBlock chunkSize fetchConcurrency fromBlock = .ok ranges := by
  obtain ⟨ranges, planned, tiles, length⟩ :=
    @planRanges_spec toBlock chunkSize positive fromBlock (by omega)
  refine ⟨ranges, planned, tiles, fun block => ?_, tiles.pairwise, ?_, fun bound =>
    planBatch_eq_planRanges planned⟩
  · refine tiles.covers_iff.trans ?_
    omega
  · rw [lifetimeActivityRequestCount_eq ordered positive, length]

theorem lifetimeActivityRequestCount_exact_clipped :
    ∃ ranges, planRanges 2010 2000 10 = .ok ranges ∧
      lifetimeActivityRequestCount 10 2010 2000 = .ok (ranges.length : ℤ) := by
  obtain ⟨ranges, planned, -, -, -, count, -⟩ :=
    @lifetimeActivityRequestCount_exact 10 2010 2000 (by decide) (by decide)
  exact ⟨ranges, planned, count⟩

end UsdpIndexer
