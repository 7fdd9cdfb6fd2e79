import UsdpIndexer.Analytics.CoverageReuse

/-!
# The reuse of coverage, on the index

`reuseSavingsHistoryCoverage` once more, for the index as a whole, where the rows of
`indexer_coverage` are without the time of their scan.  It is the call of
`UsdpIndexer.Analytics.CoverageReuse` as the other queries see it (`reuse_index`).
-/

namespace UsdpIndexer

open KeyedTable hiding Unique

/-- A row without the time of the scan. -/
def CoverageRecord.row (record : CoverageRecord) : CoverageRow :=
  ⟨record.chainId, record.scope, record.fromBlock, record.toBlock, record.runId.getD 0⟩

theorem CoverageRecord.key_row (record : CoverageRecord) : record.row.key = record.key := rfl

namespace Database

/-- The rows the insert selects. -/
def clippedCoverage (db : Database) (options : ReuseOptions) : List CoverageRow :=
  (db.coverage.filter fun row =>
      (row.chainId = options.adapter.chainId ∧ row.scope = options.sourceScope) ∧
        row.toBlock ≥ options.fromBlock ∧ row.fromBlock ≤ options.toBlock).map fun row =>
    { row with
      scope := options.targetScope
      fromBlock := max row.fromBlock options.fromBlock
      toBlock := min row.toBlock options.toBlock }

/-- `insert … on conflict do nothing`. -/
def insertCoverage (db : Database) (rows : List CoverageRow) : Except JsError Database :=
  if ∀ row ∈ rows, row.fromBlock ≤ row.toBlock then
    .ok { db with coverage := insertNew CoverageRow.key db.coverage rows }
  else .error ⟨"new row for relation \"indexer_coverage\" violates check constraint " ++
    "\"indexer_coverage_range_check\""⟩

/-- What the call returns or throws, and the index it leaves. -/
def reuseSavingsHistoryCoverage (db : Database) (options : ReuseOptions) :
    Except JsError ReuseResult × Database :=
  match verifyCoverage db options.sourceScope options.fromBlock options.toBlock
      options.adapter.chainId with
  | .error e => (.error e, db)
  | .ok sourceCoverage =>
      if !sourceCoverage.complete then
        (.ok (.unavailable "source_coverage_incomplete" sourceCoverage), db)
      else
        let inserted :=
          if options.sourceScope ≠ options.targetScope then
            db.insertCoverage (db.clippedCoverage options)
          else .ok db
        match inserted with
        | .error e => (.error e, db)
        | .ok db' =>
            match verifyCoverage db' options.targetScope options.fromBlock options.toBlock
                options.adapter.chainId with
            | .error e => (.error e, db')
            | .ok targetCoverage =>
                if !targetCoverage.complete then
                  (.error ⟨options.adapter.chainName ++ " reused history coverage is incomplete"⟩,
                    db')
                else
                  (.ok (.complete options.sourceScope options.targetScope
                    "original coverage run IDs and scan timestamps preserved"
                    sourceCoverage targetCoverage), db')

end Database

/-! ## It is the same call -/

section Agrees

variable {db : Database} {table : CoverageTable}

/-- The coverage query reads nothing but the coverage. -/
theorem verifyCoverage_congr {db' : Database} (same : db.coverage = db'.coverage)
    (scope : String) (fromBlock toBlock : ℤ) (chainId : ℕ) :
    verifyCoverage db scope fromBlock toBlock chainId
      = verifyCoverage db' scope fromBlock toBlock chainId := by
  unfold verifyCoverage Database.coverageRanges
  rw [same]

theorem clippedCoverage_eq (stored : db.coverage = table.index.coverage)
    (options : ReuseOptions) :
    db.clippedCoverage options = (options.clippedRows table).map CoverageRecord.row := by
  simp only [Database.clippedCoverage, stored, CoverageTable.index, ReuseOptions.clippedRows,
    CoverageTable.rowsOf, List.filter_map, List.filter_filter, List.map_map]
  congr 1
  refine List.filter_congr fun record _ => ?_
  simp only [Function.comp_apply, Bool.decide_and, Bool.and_comm]

theorem insertCoverage_eq (stored : db.coverage = table.index.coverage)
    (records : List CoverageRecord) :
    db.insertCoverage (records.map CoverageRecord.row)
      = (table.insert records).map fun table' =>
          { db with coverage := table'.index.coverage } := by
  have check : (∀ row ∈ records.map CoverageRecord.row, row.fromBlock ≤ row.toBlock)
      ↔ ∀ record ∈ records, record.fromBlock ≤ record.toBlock := List.forall_mem_map
  by_cases valid : ∀ record ∈ records, record.fromBlock ≤ record.toBlock
  · rw [Database.insertCoverage, if_pos (check.mpr valid), CoverageTable.insert, dif_pos valid,
      stored]
    have inserted := insertNew_map CoverageRecord.key CoverageRecord.key_row records table.rows
    exact congrArg (fun coverage => Except.ok { db with coverage }) inserted
  · rw [Database.insertCoverage, if_neg (mt check.mp valid), CoverageTable.insert, dif_neg valid]
    rfl

/-- **The call on the index is the call on its coverage.** -/
theorem reuse_index (stored : db.coverage = table.index.coverage) (options : ReuseOptions) :
    db.reuseSavingsHistoryCoverage options
      = ((reuseSavingsHistoryCoverage options table).1,
          { db with
            coverage := (reuseSavingsHistoryCoverage options table).2.index.coverage }) := by
  have unchanged : db = { db with coverage := table.index.coverage } := by
    rw [← stored]
  have inserted : (if options.sourceScope ≠ options.targetScope then
        db.insertCoverage (db.clippedCoverage options) else .ok db)
      = (if options.sourceScope ≠ options.targetScope then
          table.insert (options.clippedRows table) else .ok table).map
        fun table' => { db with coverage := table'.index.coverage } := by
    split
    · rw [clippedCoverage_eq stored, insertCoverage_eq stored]
    · exact congrArg Except.ok unchanged
  unfold Database.reuseSavingsHistoryCoverage reuseSavingsHistoryCoverage
  rw [verifyCoverage_congr stored, inserted]
  cases verifyCoverage table.index options.sourceScope options.fromBlock options.toBlock
    options.adapter.chainId with
  | error e => exact congrArg (Prod.mk _) unchanged
  | ok sourceCoverage =>
      cases complete : sourceCoverage.complete with
      | false =>
          simp only [complete]
          exact congrArg (Prod.mk _) unchanged
      | true =>
          simp only [complete]
          cases (if options.sourceScope ≠ options.targetScope then
              table.insert (options.clippedRows table) else .ok table) with
          | error e => exact congrArg (Prod.mk _) unchanged
          | ok table' =>
              have report := @verifyCoverage_congr { db with coverage := table'.index.coverage }
                table'.index rfl options.targetScope options.fromBlock options.toBlock
                options.adapter.chainId
              simp only [Except.map, report]
              cases verifyCoverage table'.index options.targetScope options.fromBlock
                options.toBlock options.adapter.chainId with
              | error e => rfl
              | ok targetCoverage => cases finished : targetCoverage.complete <;> simp [finished]

end Agrees

/-! ## What it does to the index -/

/-- The index has grown by clipped rows of the source. -/
structure CoverageHandover (options : ReuseOptions) (db db' : Database) : Prop where
  grown : ∃ added, db' = { db with coverage := db.coverage ++ added } ∧
    ∀ row ∈ added, row ∈ db.clippedCoverage options

theorem CoverageHandover.refl (options : ReuseOptions) (db : Database) :
    CoverageHandover options db db :=
  ⟨[], by rw [List.append_nil], fun _ mem => absurd mem List.not_mem_nil⟩

/-- A clipped row lies inside of the range and of a row of the source. -/
theorem Database.clippedCoverage_inside {db : Database} {options : ReuseOptions}
    {row : CoverageRow} (mem : row ∈ db.clippedCoverage options) :
    row.chainId = options.adapter.chainId ∧ row.scope = options.targetScope ∧
      ∃ source ∈ db.coverage, source.chainId = options.adapter.chainId ∧
        source.scope = options.sourceScope ∧
        source.fromBlock ≤ row.fromBlock ∧ row.toBlock ≤ source.toBlock := by
  obtain ⟨source, selected, rfl⟩ := List.mem_map.mp mem
  obtain ⟨stored, own⟩ := List.mem_filter.mp selected
  rw [decide_eq_true_eq] at own
  exact ⟨own.1.1, rfl, source, stored, own.1.1, own.1.2, le_max_left _ _, min_le_left _ _⟩

/-- **What the call does**: it adds clipped rows, none of them empty if none was; and where it
reports the coverage as complete, it is. -/
theorem reuseSavingsHistoryCoverage_spec (options : ReuseOptions) (db : Database) :
    CoverageHandover options db (db.reuseSavingsHistoryCoverage options).2 ∧
      ((∀ row ∈ db.coverage, row.fromBlock ≤ row.toBlock) →
        ∀ row ∈ (db.reuseSavingsHistoryCoverage options).2.coverage,
          row.fromBlock ≤ row.toBlock) ∧
      ∀ sourceScope targetScope provenance sourceCoverage targetCoverage,
        (db.reuseSavingsHistoryCoverage options).1
            = .ok (.complete sourceScope targetScope provenance sourceCoverage targetCoverage) →
          verifyCoverage (db.reuseSavingsHistoryCoverage options).2 options.targetScope
              options.fromBlock options.toBlock options.adapter.chainId = .ok targetCoverage ∧
            targetCoverage.complete = true := by
  have nothing : CoverageHandover options db db ∧
      ((∀ row ∈ db.coverage, row.fromBlock ≤ row.toBlock) →
        ∀ row ∈ db.coverage, row.fromBlock ≤ row.toBlock) := ⟨.refl options db, id⟩
  unfold Database.reuseSavingsHistoryCoverage
  split
  · exact ⟨nothing.1, nothing.2, by simp⟩
  · split
    · exact ⟨nothing.1, nothing.2, by simp⟩
    · simp only
      split
      · exact ⟨nothing.1, nothing.2, by simp⟩
      · rename_i db' inserted
        have grown : CoverageHandover options db db' ∧
            ((∀ row ∈ db.coverage, row.fromBlock ≤ row.toBlock) →
              ∀ row ∈ db'.coverage, row.fromBlock ≤ row.toBlock) := by
          split at inserted
          · unfold Database.insertCoverage at inserted
            split at inserted
            · rename_i check
              cases inserted
              refine ⟨⟨_, rfl, fun row mem => mem_of_mem_fresh CoverageRow.key mem⟩, ?_⟩
              intro valid row mem
              rcases (mem_insertNew CoverageRow.key).mp mem with old | new
              · exact valid row old
              · exact check row (mem_of_mem_fresh CoverageRow.key new)
            · cases inserted
          · cases inserted
            exact nothing
        split
        · exact ⟨grown.1, grown.2, by simp⟩
        · rename_i targetCoverage report
          split
          · exact ⟨grown.1, grown.2, by simp⟩
          · rename_i complete
            refine ⟨grown.1, grown.2, ?_⟩
            rintro _ _ _ _ _ ⟨⟩
            exact ⟨report, by simpa using complete⟩

end UsdpIndexer
