import UsdpIndexer.Analytics.HolderLedger
import UsdpIndexer.Protocol.Registry

/-!
# Coverage and its reuse

Everything that is derived from the index asks `verifyCoverage` of `indexer/status.ts` first.
Its query leaves rows out that lie outside of the window; the gaps it reports are those of all
rows (`coverageGaps_exact`).

`reuseSavingsHistoryCoverage` of `analytics/savings-history.ts` hands the coverage of one scope
over to another one: the rows of the source are clipped to the range and inserted under the
target, with the run and the time of the scan they come from.
-/

namespace UsdpIndexer

open IntegerCover StableOrder

/-! ## What a report says -/

/-- What the query leaves out does not matter. -/
theorem verifyCoverage_eq {db : Database} {scope : String} {fromBlock toBlock : ℤ} {chainId : ℕ}
    (valid : ∀ range ∈ db.coverageRanges chainId scope, range.fromBlock ≤ range.toBlock) :
    verifyCoverage db scope fromBlock toBlock chainId
      = (coverageGaps (db.coverageRanges chainId scope) fromBlock toBlock).map fun gaps =>
          { scope := scope
            chainId := chainId
            fromBlock := fromBlock
            toBlock := toBlock
            complete := gaps.length = 0
            rangeRows := ((db.coverageRanges chainId scope).filter fun range =>
              range.toBlock ≥ fromBlock ∧ range.fromBlock ≤ toBlock).length
            gaps := gaps } := by
  have same : coverageGaps (sortBy compareFromBlock ((db.coverageRanges chainId scope).filter
        fun range => range.toBlock ≥ fromBlock ∧ range.fromBlock ≤ toBlock)) fromBlock toBlock
      = coverageGaps (db.coverageRanges chainId scope) fromBlock toBlock := by
    apply coverageGaps_congr
    · intro range mem
      exact valid range (List.mem_filter.mp (mem_sortBy.mp mem)).1
    · exact valid
    · intro block low high
      simp only [Covers, mem_sortBy, List.mem_filter, decide_eq_true_eq]
      constructor
      · rintro ⟨range, ⟨mem, -⟩, inside⟩
        exact ⟨range, mem, inside⟩
      · rintro ⟨range, mem, inside⟩
        exact ⟨range, ⟨mem, by omega, by omega⟩, inside⟩
  have rows := (perm_sortBy compareFromBlock ((db.coverageRanges chainId scope).filter
    fun range => range.toBlock ≥ fromBlock ∧ range.fromBlock ≤ toBlock)).length_eq
  rw [verifyCoverage, same, rows]
  cases coverageGaps (db.coverageRanges chainId scope) fromBlock toBlock <;> rfl

theorem verifyCoverage_misordered (db : Database) (scope : String) (chainId : ℕ)
    {fromBlock toBlock : ℤ} (misordered : toBlock < fromBlock) :
    verifyCoverage db scope fromBlock toBlock chainId
      = .error ⟨"fromBlock must not exceed toBlock"⟩ := by
  rw [verifyCoverage, coverageGaps, if_pos misordered]
  rfl

/-- **The gaps are exact.**  They are the uncovered blocks of the window, in ascending ranges
with a covered block between any two; the report states them whatever its query leaves out,
and calls the window complete exactly if every block of it is covered. -/
theorem coverageGaps_exact {ranges : List BlockRange} {fromBlock toBlock : ℤ}
    (valid : ∀ range ∈ ranges, range.fromBlock ≤ range.toBlock) (ordered : fromBlock ≤ toBlock) :
    ∃ gaps, coverageGaps ranges fromBlock toBlock = .ok gaps ∧
      (∀ block, fromBlock ≤ block → block ≤ toBlock →
        (Covered gaps block ↔ ¬ Covered ranges block)) ∧
      (∀ gap ∈ gaps, fromBlock ≤ gap.fromBlock ∧ gap.fromBlock ≤ gap.toBlock ∧
        gap.toBlock ≤ toBlock) ∧
      (gaps.Pairwise fun gap later =>
        ∃ block, gap.toBlock < block ∧ block < later.fromBlock ∧ Covered ranges block) ∧
      ∀ (db : Database) (scope : String) (chainId : ℕ),
        db.coverageRanges chainId scope = ranges →
        ∃ report, verifyCoverage db scope fromBlock toBlock chainId = .ok report ∧
          report.gaps = gaps ∧
          (report.complete ↔
            ∀ block, fromBlock ≤ block → block ≤ toBlock → Covered ranges block) := by
  have result : coverageGaps ranges fromBlock toBlock
      = .ok (scanGaps toBlock fromBlock (mergeCoverage ranges)) := by
    rw [coverageGaps, if_neg (not_lt.mpr ordered)]
  obtain ⟨inside, separated⟩ := bounds_coverageGaps valid result
  refine ⟨_, result, fun block low high => ?_, inside, separated, ?_⟩
  · have covered := covered_coverageGaps valid result block
    simp only [low, high, true_and] at covered
    exact covered
  · rintro db scope chainId rfl
    refine ⟨_, (verifyCoverage_eq valid).trans (by rw [result]; rfl), rfl, ?_⟩
    rw [← coverageGaps_eq_nil_iff valid ordered, result]
    simp only [decide_eq_true_eq, List.length_eq_zero_iff, Except.ok.injEq]

/-- Nested, adjacent and repeated ranges, in no order. -/
def scatteredRanges : List BlockRange := [⟨20, 30⟩, ⟨3, 9⟩, ⟨1, 5⟩, ⟨10, 10⟩, ⟨3, 9⟩, ⟨14, 14⟩]

theorem coverageGaps_exact_scattered :
    ∃ gaps, coverageGaps scatteredRanges 4 25 = .ok gaps ∧ gaps = [⟨11, 13⟩, ⟨15, 19⟩] ∧
      (Covered gaps 12 ↔ ¬ Covered scatteredRanges 12) := by
  obtain ⟨gaps, result, exact, -⟩ :=
    @coverageGaps_exact scatteredRanges 4 25 (by decide) (by decide)
  have known : coverageGaps scatteredRanges 4 25 = .ok [⟨11, 13⟩, ⟨15, 19⟩] := by decide
  rw [known] at result
  cases result
  exact ⟨_, known, rfl, exact 12 (by decide) (by decide)⟩

/-! ## The table -/

/-- A row of `indexer_coverage`.  The run is gone from a row whose run has been deleted. -/
structure CoverageRecord where
  chainId : ℕ
  scope : String
  fromBlock : ℤ
  toBlock : ℤ
  runId : Option ℕ
  scannedAt : ℤ
deriving DecidableEq, Repr

/-- `indexer_coverage_scope_range_unique`. -/
def CoverageRecord.key (row : CoverageRecord) : ℕ × String × ℤ × ℤ :=
  (row.chainId, row.scope, row.fromBlock, row.toBlock)

/-- `indexer_coverage` with its two constraints; the rows are in the order in which they are
read. -/
@[ext] structure CoverageTable where
  rows : List CoverageRecord
  rangeCheck : ∀ row ∈ rows, row.fromBlock ≤ row.toBlock
  rangeUnique : KeyedTable.Unique CoverageRecord.key rows

namespace CoverageTable

/-- The rows of a scope. -/
def rowsOf (table : CoverageTable) (chainId : ℕ) (scope : String) : List CoverageRecord :=
  table.rows.filter fun row => row.chainId = chainId ∧ row.scope = scope

/-- A block is covered by the rows of a scope. -/
def CoveredFor (table : CoverageTable) (chainId : ℕ) (scope : String) (block : ℤ) : Prop :=
  ∃ row ∈ table.rowsOf chainId scope, row.fromBlock ≤ block ∧ block ≤ row.toBlock

/-- The table as the coverage query sees it, which reads neither the run nor the time. -/
def index (table : CoverageTable) : Database :=
  { Database.empty with
    coverage := table.rows.map fun row =>
      ⟨row.chainId, row.scope, row.fromBlock, row.toBlock, row.runId.getD 0⟩ }

/-- `insert … on conflict do nothing`.  The range check comes before the conflicts. -/
def insert (table : CoverageTable) (rows : List CoverageRecord) :
    Except JsError CoverageTable :=
  if rangeCheck : ∀ row ∈ rows, row.fromBlock ≤ row.toBlock then
    .ok {
      rows := KeyedTable.insertNew CoverageRecord.key table.rows rows
      rangeCheck := by
        intro row mem
        rcases (KeyedTable.mem_insertNew CoverageRecord.key).mp mem with stored | added
        · exact table.rangeCheck row stored
        · exact rangeCheck row (KeyedTable.mem_of_mem_fresh CoverageRecord.key added)
      rangeUnique := KeyedTable.unique_insertNew CoverageRecord.key rows _ table.rangeUnique }
  else .error ⟨"new row for relation \"indexer_coverage\" violates check constraint " ++
    "\"indexer_coverage_range_check\""⟩

theorem coverageRanges_index (table : CoverageTable) (chainId : ℕ) (scope : String) :
    table.index.coverageRanges chainId scope
      = (table.rowsOf chainId scope).map fun row => ⟨row.fromBlock, row.toBlock⟩ := by
  simp only [Database.coverageRanges, index, rowsOf, List.filter_map, List.map_map]
  rfl

theorem covered_index {table : CoverageTable} {chainId : ℕ} {scope : String} {block : ℤ} :
    Covered (table.index.coverageRanges chainId scope) block
      ↔ table.CoveredFor chainId scope block := by
  rw [coverageRanges_index]
  simp only [Covers, List.mem_map, CoveredFor]
  constructor
  · rintro ⟨range, ⟨row, mem, rfl⟩, inside⟩
    exact ⟨row, mem, inside⟩
  · rintro ⟨row, mem, inside⟩
    exact ⟨_, ⟨row, mem, rfl⟩, inside⟩

/-- **What the report on a table says.** -/
theorem verifyCoverage_index (table : CoverageTable) (scope : String) (chainId : ℕ)
    {fromBlock toBlock : ℤ} (ordered : fromBlock ≤ toBlock) :
    ∃ report, verifyCoverage table.index scope fromBlock toBlock chainId = .ok report ∧
      (report.complete ↔
        ∀ block, fromBlock ≤ block → block ≤ toBlock → table.CoveredFor chainId scope block) := by
  have valid : ∀ range ∈ table.index.coverageRanges chainId scope,
      range.fromBlock ≤ range.toBlock := by
    rw [coverageRanges_index]
    intro range mem
    obtain ⟨row, stored, rfl⟩ := List.mem_map.mp mem
    exact table.rangeCheck row (List.mem_filter.mp stored).1
  have result : coverageGaps (table.index.coverageRanges chainId scope) fromBlock toBlock
      = .ok (scanGaps toBlock fromBlock (mergeCoverage (table.index.coverageRanges chainId scope)))
      := by
    rw [coverageGaps, if_neg (not_lt.mpr ordered)]
  refine ⟨_, (verifyCoverage_eq valid).trans (by rw [result]; rfl), ?_⟩
  have complete := coverageGaps_eq_nil_iff valid ordered
  simp only [covered_index] at complete
  rw [← complete, result]
  simp only [decide_eq_true_eq, List.length_eq_zero_iff, Except.ok.injEq]

/-- What is covered stays covered where rows are added. -/
theorem CoveredFor.mono {table table' : CoverageTable} (sub : table.rows ⊆ table'.rows)
    {chainId : ℕ} {scope : String} {block : ℤ} (covered : table.CoveredFor chainId scope block) :
    table'.CoveredFor chainId scope block := by
  obtain ⟨row, mem, inside⟩ := covered
  obtain ⟨stored, own⟩ := List.mem_filter.mp mem
  exact ⟨row, List.mem_filter.mpr ⟨sub stored, own⟩, inside⟩

end CoverageTable

/-! ## The reuse -/

/-- The call but for the database. -/
structure ReuseOptions where
  adapter : SavingsChainAdapter
  sourceScope : String
  targetScope : String
  fromBlock : ℤ
  toBlock : ℤ
deriving DecidableEq, Repr

/-- What the reuse of coverage comes to. -/
inductive ReuseResult
  | unavailable (reason : String) (sourceCoverage : CoverageReport)
  | complete (sourceScope targetScope provenance : String)
      (sourceCoverage targetCoverage : CoverageReport)
deriving DecidableEq, Repr

/-- The rows the insert selects: those of the source that meet the range, clipped to it. -/
def ReuseOptions.clippedRows (options : ReuseOptions) (table : CoverageTable) :
    List CoverageRecord :=
  ((table.rowsOf options.adapter.chainId options.sourceScope).filter fun row =>
      row.toBlock ≥ options.fromBlock ∧ row.fromBlock ≤ options.toBlock).map fun row =>
    { row with
      scope := options.targetScope
      fromBlock := max row.fromBlock options.fromBlock
      toBlock := min row.toBlock options.toBlock }

/-- What the call returns or throws, and the table it leaves. -/
def reuseSavingsHistoryCoverage (options : ReuseOptions) (table : CoverageTable) :
    Except JsError ReuseResult × CoverageTable :=
  match verifyCoverage table.index options.sourceScope options.fromBlock options.toBlock
      options.adapter.chainId with
  | .error e => (.error e, table)
  | .ok sourceCoverage =>
      if !sourceCoverage.complete then
        (.ok (.unavailable "source_coverage_incomplete" sourceCoverage), table)
      else
        let inserted :=
          if options.sourceScope ≠ options.targetScope then
            table.insert (options.clippedRows table)
          else .ok table
        match inserted with
        | .error e => (.error e, table)
        | .ok table' =>
            match verifyCoverage table'.index options.targetScope options.fromBlock
                options.toBlock options.adapter.chainId with
            | .error e => (.error e, table')
            | .ok targetCoverage =>
                if !targetCoverage.complete then
                  (.error ⟨options.adapter.chainName ++ " reused history coverage is incomplete"⟩,
                    table')
                else
                  (.ok (.complete options.sourceScope options.targetScope
                    "original coverage run IDs and scan timestamps preserved"
                    sourceCoverage targetCoverage), table')

/-! ## What it hands over -/

section HandedOver

variable {options : ReuseOptions} {table table' : CoverageTable}

/-- The statement between the two reports. -/
def ReuseOptions.insertClipped (options : ReuseOptions) (table : CoverageTable) :
    Except JsError CoverageTable :=
  if options.sourceScope ≠ options.targetScope then table.insert (options.clippedRows table)
  else .ok table

theorem ReuseOptions.mem_clippedRows {row : CoverageRecord} :
    row ∈ options.clippedRows table ↔
      ∃ source ∈ table.rowsOf options.adapter.chainId options.sourceScope,
        options.fromBlock ≤ source.toBlock ∧ source.fromBlock ≤ options.toBlock ∧
        row = { source with
          scope := options.targetScope
          fromBlock := max source.fromBlock options.fromBlock
          toBlock := min source.toBlock options.toBlock } := by
  simp only [ReuseOptions.clippedRows, List.mem_map, List.mem_filter, decide_eq_true_eq]
  constructor
  · rintro ⟨source, ⟨mem, meets⟩, rfl⟩
    exact ⟨source, mem, meets.1, meets.2, rfl⟩
  · rintro ⟨source, mem, low, high, rfl⟩
    exact ⟨source, ⟨mem, low, high⟩, rfl⟩

/-- A clipped row belongs to the target, lies inside of the range and inside of a row of the
source, and keeps the run and the time of that row. -/
theorem ReuseOptions.clippedRows_inside (options : ReuseOptions) {table : CoverageTable}
    {row : CoverageRecord} (mem : row ∈ options.clippedRows table) :
    row.chainId = options.adapter.chainId ∧ row.scope = options.targetScope ∧
      options.fromBlock ≤ row.fromBlock ∧ row.toBlock ≤ options.toBlock ∧
      ∃ source ∈ table.rowsOf options.adapter.chainId options.sourceScope,
        source.fromBlock ≤ row.fromBlock ∧ row.toBlock ≤ source.toBlock ∧
        row.runId = source.runId ∧ row.scannedAt = source.scannedAt := by
  obtain ⟨source, stored, low, high, rfl⟩ := mem_clippedRows.mp mem
  have own := (List.mem_filter.mp stored).2
  rw [decide_eq_true_eq] at own
  exact ⟨own.1, rfl, le_max_right _ _, min_le_right _ _, source, stored, le_max_left _ _,
    min_le_left _ _, rfl, rfl⟩

variable (table) in
/-- No clipped row is empty, so the insert passes the range check. -/
theorem ReuseOptions.clippedRows_rangeCheck (ordered : options.fromBlock ≤ options.toBlock) :
    ∀ row ∈ options.clippedRows table, row.fromBlock ≤ row.toBlock := by
  intro row mem
  obtain ⟨source, stored, low, high, rfl⟩ := mem_clippedRows.mp mem
  have nonempty := table.rangeCheck source (List.mem_filter.mp stored).1
  exact max_le (le_min nonempty high) (le_min low ordered)

/-- The clipped rows cover of the range what the source covers. -/
theorem ReuseOptions.clippedRows_covers {block : ℤ} (low : options.fromBlock ≤ block)
    (high : block ≤ options.toBlock)
    (covered : table.CoveredFor options.adapter.chainId options.sourceScope block) :
    ∃ row ∈ options.clippedRows table, row.fromBlock ≤ block ∧ block ≤ row.toBlock := by
  obtain ⟨source, mem, begins, ends⟩ := covered
  exact ⟨_, mem_clippedRows.mpr ⟨source, mem, low.trans ends, begins.trans high, rfl⟩,
    max_le begins low, le_min ends high⟩

/-- The table after the statement: rows of the clipped ones are added, and where the scopes
differ every range of a clipped row is there. -/
structure HandedOver (options : ReuseOptions) (table table' : CoverageTable) : Prop where
  added : ∃ added, table'.rows = table.rows ++ added ∧
    ∀ row ∈ added, row ∈ options.clippedRows table
  same : options.sourceScope = options.targetScope → table' = table
  stored : options.sourceScope ≠ options.targetScope →
    ∀ row ∈ options.clippedRows table, row.key ∈ table'.rows.map CoverageRecord.key

theorem exists_insertClipped (ordered : options.fromBlock ≤ options.toBlock)
    (table : CoverageTable) :
    ∃ table', options.insertClipped table = .ok table' ∧ HandedOver options table table' := by
  rw [ReuseOptions.insertClipped]
  by_cases same : options.sourceScope = options.targetScope
  · exact ⟨table, if_neg (not_not.mpr same), ⟨[], (List.append_nil _).symm, by simp⟩,
      fun _ => rfl, fun differ => absurd same differ⟩
  · have check := ReuseOptions.clippedRows_rangeCheck table ordered
    rw [if_pos same, CoverageTable.insert, dif_pos check]
    refine ⟨_, rfl, ⟨_, rfl, fun row mem =>
      KeyedTable.mem_of_mem_fresh CoverageRecord.key mem⟩, fun equal => absurd equal same,
      fun _ row mem => KeyedTable.key_mem_insertNew CoverageRecord.key _ _ mem⟩

namespace HandedOver

variable (handed : HandedOver options table table')
include handed

theorem subset : table.rows ⊆ table'.rows := by
  obtain ⟨added, rows, -⟩ := handed.added
  rw [rows]
  exact List.subset_append_left _ _

/-- The rows of the source are left alone. -/
theorem rowsOf_source :
    table'.rowsOf options.adapter.chainId options.sourceScope
      = table.rowsOf options.adapter.chainId options.sourceScope := by
  by_cases equal : options.sourceScope = options.targetScope
  · rw [handed.same equal]
  · obtain ⟨added, rows, clipped⟩ := handed.added
    have others : added.filter (fun row => row.chainId = options.adapter.chainId ∧
        row.scope = options.sourceScope) = [] := by
      rw [List.filter_eq_nil_iff]
      intro row mem own
      rw [decide_eq_true_eq, (options.clippedRows_inside (clipped row mem)).2.1] at own
      exact equal own.2.symm
    rw [CoverageTable.rowsOf, rows, List.filter_append, others, List.append_nil]
    rfl

/-- **What the target covers afterwards.** -/
theorem coveredFor_iff (complete : ∀ block, options.fromBlock ≤ block → block ≤ options.toBlock →
      table.CoveredFor options.adapter.chainId options.sourceScope block) (block : ℤ) :
    table'.CoveredFor options.adapter.chainId options.targetScope block
      ↔ table.CoveredFor options.adapter.chainId options.targetScope block ∨
        (options.fromBlock ≤ block ∧ block ≤ options.toBlock) := by
  constructor
  · rintro ⟨row, mem, begins, ends⟩
    obtain ⟨stored, own⟩ := List.mem_filter.mp mem
    obtain ⟨added, rows, clipped⟩ := handed.added
    rw [rows, List.mem_append] at stored
    rcases stored with old | new
    · exact .inl ⟨row, List.mem_filter.mpr ⟨old, own⟩, begins, ends⟩
    · have inside := options.clippedRows_inside (clipped row new)
      exact .inr ⟨inside.2.2.1.trans begins, ends.trans inside.2.2.2.1⟩
  · rintro (covered | ⟨low, high⟩)
    · exact covered.mono handed.subset
    · have source := complete block low high
      by_cases equal : options.sourceScope = options.targetScope
      · rw [handed.same equal, ← equal]
        exact source
      · -- the range of the clipped row is stored, if not by the row itself
        obtain ⟨row, clipped, begins, ends⟩ := ReuseOptions.clippedRows_covers low high source
        obtain ⟨stored, mem, key⟩ := List.mem_map.mp (handed.stored equal row clipped)
        have inside := options.clippedRows_inside clipped
        simp only [CoverageRecord.key, Prod.mk.injEq] at key
        refine ⟨stored, List.mem_filter.mpr ⟨mem, ?_⟩, key.2.2.1 ▸ begins, key.2.2.2 ▸ ends⟩
        rw [decide_eq_true_eq]
        exact ⟨key.1.trans inside.1, key.2.1.trans inside.2.1⟩

/-- The range is covered by the target. -/
theorem covers_range (complete : ∀ block, options.fromBlock ≤ block → block ≤ options.toBlock →
      table.CoveredFor options.adapter.chainId options.sourceScope block) (block : ℤ)
    (low : options.fromBlock ≤ block) (high : block ≤ options.toBlock) :
    table'.CoveredFor options.adapter.chainId options.targetScope block :=
  (handed.coveredFor_iff complete block).mpr (.inr ⟨low, high⟩)

/-- **Once is enough.** -/
theorem insertClipped_again (ordered : options.fromBlock ≤ options.toBlock) :
    options.insertClipped table' = .ok table' := by
  rw [ReuseOptions.insertClipped]
  by_cases equal : options.sourceScope = options.targetScope
  · exact if_neg (not_not.mpr equal)
  · have clipped : options.clippedRows table' = options.clippedRows table := by
      rw [ReuseOptions.clippedRows, handed.rowsOf_source]
      rfl
    have check := ReuseOptions.clippedRows_rangeCheck table' ordered
    rw [if_pos equal, CoverageTable.insert, dif_pos check]
    congr 1
    ext1
    apply KeyedTable.insertNew_eq_self
    rw [clipped]
    exact handed.stored equal

end HandedOver

/-- A call that finds the source incomplete. -/
theorem reuseSavingsHistoryCoverage_of_incomplete {report : CoverageReport}
    (result : verifyCoverage table.index options.sourceScope options.fromBlock options.toBlock
      options.adapter.chainId = .ok report) (incomplete : report.complete = false) :
    reuseSavingsHistoryCoverage options table
      = (.ok (.unavailable "source_coverage_incomplete" report), table) := by
  simp [reuseSavingsHistoryCoverage, result, incomplete]

/-- A call that finds both scopes complete. -/
theorem reuseSavingsHistoryCoverage_of_complete
    (ordered : options.fromBlock ≤ options.toBlock)
    (source : ∀ block, options.fromBlock ≤ block → block ≤ options.toBlock →
      table.CoveredFor options.adapter.chainId options.sourceScope block)
    (inserted : options.insertClipped table = .ok table')
    (target : ∀ block, options.fromBlock ≤ block → block ≤ options.toBlock →
      table'.CoveredFor options.adapter.chainId options.targetScope block) :
    ∃ sourceCoverage targetCoverage, reuseSavingsHistoryCoverage options table
      = (.ok (.complete options.sourceScope options.targetScope
          "original coverage run IDs and scan timestamps preserved"
          sourceCoverage targetCoverage), table') := by
  obtain ⟨sourceCoverage, sourceReport, sourceComplete⟩ :=
    table.verifyCoverage_index options.sourceScope options.adapter.chainId ordered
  obtain ⟨targetCoverage, targetReport, targetComplete⟩ :=
    table'.verifyCoverage_index options.targetScope options.adapter.chainId ordered
  refine ⟨sourceCoverage, targetCoverage, ?_⟩
  rw [ReuseOptions.insertClipped] at inserted
  simp [reuseSavingsHistoryCoverage, sourceReport, sourceComplete.mpr source, inserted,
    targetReport, targetComplete.mpr target]

end HandedOver

/-- **Reuse neither invents nor loses blocks.**  Where the source is complete, the call
succeeds; the target covers what it has covered and the range; every row that is added comes
from one row of the source; and a second call changes nothing.  Where the source is not
complete, nothing is written.  The call throws for a range without blocks only. -/
theorem reuseSavingsHistoryCoverage_exact (options : ReuseOptions) (table : CoverageTable) :
    (∀ report, verifyCoverage table.index options.sourceScope options.fromBlock options.toBlock
          options.adapter.chainId = .ok report → report.complete = true →
      ∃ sourceCoverage targetCoverage table', reuseSavingsHistoryCoverage options table
          = (.ok (.complete options.sourceScope options.targetScope
              "original coverage run IDs and scan timestamps preserved"
              sourceCoverage targetCoverage), table') ∧
        (∀ block, table'.CoveredFor options.adapter.chainId options.targetScope block ↔
          table.CoveredFor options.adapter.chainId options.targetScope block ∨
            (options.fromBlock ≤ block ∧ block ≤ options.toBlock)) ∧
        (∃ added, table'.rows = table.rows ++ added ∧ ∀ row ∈ added,
          row.chainId = options.adapter.chainId ∧ row.scope = options.targetScope ∧
          options.fromBlock ≤ row.fromBlock ∧ row.toBlock ≤ options.toBlock ∧
          ∃ source ∈ table.rowsOf options.adapter.chainId options.sourceScope,
            source.fromBlock ≤ row.fromBlock ∧ row.toBlock ≤ source.toBlock ∧
            row.runId = source.runId ∧ row.scannedAt = source.scannedAt) ∧
        (reuseSavingsHistoryCoverage options table').2 = table') ∧
    (∀ report, verifyCoverage table.index options.sourceScope options.fromBlock options.toBlock
          options.adapter.chainId = .ok report → report.complete = false →
      reuseSavingsHistoryCoverage options table
        = (.ok (.unavailable "source_coverage_incomplete" report), table)) ∧
    ∀ e, (reuseSavingsHistoryCoverage options table).1 = .error e →
      options.toBlock < options.fromBlock ∧ e = ⟨"fromBlock must not exceed toBlock"⟩ ∧
        (reuseSavingsHistoryCoverage options table).2 = table := by
  by_cases misordered : options.toBlock < options.fromBlock
  · have thrown := verifyCoverage_misordered table.index options.sourceScope
      options.adapter.chainId misordered
    have call : reuseSavingsHistoryCoverage options table
        = (.error ⟨"fromBlock must not exceed toBlock"⟩, table) := by
      rw [reuseSavingsHistoryCoverage, thrown]
    refine ⟨fun report result => ?_, fun _ => reuseSavingsHistoryCoverage_of_incomplete,
      fun e failed => ?_⟩
    · rw [thrown] at result
      cases result
    · rw [call] at failed ⊢
      cases failed
      exact ⟨misordered, rfl, rfl⟩
  · have ordered := not_lt.mp misordered
    obtain ⟨report, result, complete_iff⟩ :=
      table.verifyCoverage_index options.sourceScope options.adapter.chainId ordered
    obtain ⟨table', inserted, handed⟩ := exists_insertClipped ordered table
    have completed (complete : report.complete = true) :
        ∃ sourceCoverage targetCoverage, reuseSavingsHistoryCoverage options table
          = (.ok (.complete options.sourceScope options.targetScope
              "original coverage run IDs and scan timestamps preserved"
              sourceCoverage targetCoverage), table') := by
      have source := complete_iff.mp complete
      exact reuseSavingsHistoryCoverage_of_complete ordered source inserted
        (handed.covers_range source)
    refine ⟨fun report' result' complete => ?_,
      fun _ => reuseSavingsHistoryCoverage_of_incomplete, fun e failed => ?_⟩
    · rw [result] at result'
      cases result'
      obtain ⟨sourceCoverage, targetCoverage, call⟩ := completed complete
      have source := complete_iff.mp complete
      obtain ⟨added, rows, clipped⟩ := handed.added
      obtain ⟨_, _, again⟩ := reuseSavingsHistoryCoverage_of_complete ordered
        (fun block low high => (source block low high).mono handed.subset)
        (handed.insertClipped_again ordered) (handed.covers_range source)
      exact ⟨sourceCoverage, targetCoverage, table', call, handed.coveredFor_iff source,
        ⟨added, rows, fun row mem => options.clippedRows_inside (clipped row mem)⟩,
        congrArg Prod.snd again⟩
    · cases complete : report.complete with
      | true =>
          obtain ⟨_, _, call⟩ := completed complete
          rw [call] at failed
          cases failed
      | false =>
          rw [reuseSavingsHistoryCoverage_of_incomplete result complete] at failed
          cases failed

end UsdpIndexer
