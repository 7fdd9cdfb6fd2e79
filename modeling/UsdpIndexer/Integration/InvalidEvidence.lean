import UsdpIndexer.Integration.Headline
import UsdpIndexer.Integration.Staleness

/-!
# Failed evidence in the payload

A reconciliation that fails stores `invalid` with the interval it judged.
`readLatestSavingsHistory` selects the newest interval of each chain whatever its status,
and the breakdown of the payload presents what was selected: as verified where the status
is `verified`, and as a candidate otherwise.  So a failed interval is published exactly
where it is the newest of a chain that has a row (`invalid_unpublished_iff`).  It reaches
no other metric (`otherMetrics_eq_of_chains`).
-/

namespace UsdpIndexer

open IntegerText StableOrder SelectFirst FailingFold

/-! ## The reading as an input -/

/-- The text of a status in its column. -/
def ReconciliationStatus.text : ReconciliationStatus → String
  | .candidate => "candidate"
  | .verified => "verified"
  | .invalid => "invalid"

theorem ReconciliationStatus.text_eq_invalid {status : ReconciliationStatus} :
    status.text = "invalid" ↔ status = .invalid := by
  cases status <;> decide

/-- One of the `chains` that `readLatestSavingsHistory` returns. -/
def SavingsYieldInterval.input (row : SavingsYieldInterval) : HistoryChainInput where
  chainId := row.chainId
  chainSlug := ((savingsChainAdapters.find? (·.chainId = row.chainId)).map
    (·.chainSlug)).getD "unknown"
  fromBlock := toString row.fromBlock
  toBlock := toString row.toBlock
  windowStart := toISOString row.windowStart
  windowEnd := toISOString row.windowEnd
  nativeYpo := toString row.nativeYpo
  coverageScope := row.coverageScope
  windowConvention := row.windowConvention
  reconciliationStatus := row.reconciliationStatus.text
  calculationVersion := row.calculationVersion

/-- The `global` that it returns. -/
def GlobalSavingsYield.input (row : GlobalSavingsYield) : HistoryGlobalInput where
  windowEnd := toISOString row.windowEnd
  coverageStatus := row.coverageStatus.text
  nativeYpo := toString row.nativeYpo
  missingChainIds := row.missingChainIds
  unreconciledChainIds := row.unreconciledChainIds
  calculationVersion := row.calculationVersion

/-- What `readLatestSavingsHistory` hands to the payload. -/
def SavingsHistory.input (history : SavingsHistory) : HistoryInput where
  status := history.status.text
  chains := some (history.chains.map (·.2.input))
  global := history.global.map (·.2.input)

/-! ## What is selected -/

/-- The interval of a chain that the reader selects: the newest of those whose scope has
the name of the latest global window, and the latest of about seven days where there is
no global window. -/
def AnalyticsDatabase.selectedYield (db : AnalyticsDatabase) (chainId : ℕ) :
    Option (ℕ × SavingsYieldInterval) :=
  match db.latestGlobalYield with
  | some global => first newestFirst <| List.filter (·.2.chainId = chainId) <|
      db.yields.rows.filter fun row => scopeMatches row.2.coverageScope
        (alignedScopeSuffix global.2.windowStart global.2.windowEnd)
  | none => first (fun a b => lexCompare (·.2.windowEnd) (·.2.createdAt) b a) <|
      List.filter (·.2.chainId = chainId) <| db.yields.rows.filter fun row =>
        601200000 ≤ row.2.windowEnd - row.2.windowStart ∧
          row.2.windowEnd - row.2.windowStart ≤ 608400000

section Selection

variable {db : AnalyticsDatabase}

theorem mem_of_selectedYield {chainId : ℕ} {row : ℕ × SavingsYieldInterval}
    (selected : db.selectedYield chainId = some row) :
    row ∈ db.yields.rows ∧ row.2.chainId = chainId := by
  unfold AnalyticsDatabase.selectedYield at selected
  split at selected
  · exact ⟨(List.mem_filter.mp (List.mem_filter.mp (mem_of_first selected)).1).1,
      by simpa using (List.mem_filter.mp (mem_of_first selected)).2⟩
  · exact ⟨(List.mem_filter.mp (List.mem_filter.mp (mem_of_first selected)).1).1,
      by simpa using (List.mem_filter.mp (mem_of_first selected)).2⟩

theorem chains_readLatestSavingsHistory :
    (readLatestSavingsHistory db).chains = match db.latestGlobalYield with
      | some latest => db.alignedYields latest.2
      | none => db.sevenDayYields := by
  unfold readLatestSavingsHistory
  cases db.latestGlobalYield with
  | none =>
      simp only
      split
      · rename_i empty
        exact empty.symm
      · rfl
  | some latest =>
      simp only
      split
      · rename_i empty
        exact empty.symm
      · rfl

/-- The entry of a chain in what the reader returns is the interval it selects. -/
theorem find?_chains (chainId : ℕ) :
    (readLatestSavingsHistory db).chains.reverse.find? (·.2.chainId = chainId)
      = db.selectedYield chainId := by
  rw [chains_readLatestSavingsHistory]
  unfold AnalyticsDatabase.selectedYield
  split <;> exact find?_reverse_distinctOn chainId

/-- The entry that the payload looks up. -/
theorem historyByChain_input {input : StablewatchPayloadInput} (chainId : ℕ)
    (reads : input.history = (readLatestSavingsHistory db).input) :
    input.historyByChain chainId = (db.selectedYield chainId).map (·.2.input) := by
  unfold StablewatchPayloadInput.historyByChain
  rw [reads, ← find?_chains]
  show ((List.map _ _).reverse).find? _ = _
  rw [← List.map_reverse, List.find?_map]
  rfl

end Selection

/-! ## What is published -/

/-- The row of the chain has the interval in its history and an available yield. -/
def StablewatchPayload.Publishes (payload : StablewatchPayload)
    (interval : SavingsYieldInterval) : Prop :=
  ∃ row ∈ payload.chainBreakdown, row.chainId = interval.chainId ∧
    row.history = some interval.input.chainHistory ∧ row.ypoSevenDay.availability = .available

/-- A row of the breakdown presents the interval of its chain. -/
theorem chainRow_history {input : StablewatchPayloadInput}
    {component : GlobalSavingsComponentInput} {row : ChainBreakdownRow}
    (result : input.chainRow component = .ok row) :
    row.chainId = component.chainId ∧
      row.history = (input.historyByChain component.chainId).map HistoryChainInput.chainHistory ∧
      row.ypoSevenDay = input.chainYpoSevenDay component.chainId := by
  obtain ⟨estimate, -, result⟩ := bind_eq_ok.mp result
  cases result
  exact ⟨rfl, rfl, rfl⟩

/-- The rows of a payload are those of the components. -/
theorem mem_chainBreakdown {input : StablewatchPayloadInput} {payload : StablewatchPayload}
    (built : buildStablewatchAssetPayload input = .ok payload) (row : ChainBreakdownRow) :
    row ∈ payload.chainBreakdown
      ↔ ∃ component ∈ input.global.components.getD [], input.chainRow component = .ok row := by
  obtain ⟨-, breakdown, -, -, -⟩ := buildStablewatchAssetPayload_eq_ok built
  obtain ⟨rows, each, result⟩ := bind_eq_ok.mp breakdown
  rw [← Except.ok.inj result, mem_sortBy]
  exact mem_of_mapM_eq_ok each row

/-- Every component has its row. -/
theorem exists_chainRow {input : StablewatchPayloadInput} {payload : StablewatchPayload}
    (built : buildStablewatchAssetPayload input = .ok payload)
    {component : GlobalSavingsComponentInput}
    (mem : component ∈ input.global.components.getD []) :
    ∃ row, input.chainRow component = .ok row := by
  obtain ⟨-, breakdown, -, -, -⟩ := buildStablewatchAssetPayload_eq_ok built
  obtain ⟨rows, each, -⟩ := bind_eq_ok.mp breakdown
  exact (exists_mapM_eq_ok_iff.mp ⟨rows, each⟩) component mem

/-- The yield of a chain is available as soon as an interval is selected for it,
whatever its status. -/
theorem chainYpoSevenDay_available {input : StablewatchPayloadInput} {chainId : ℕ}
    {interval : HistoryChainInput} (selected : input.historyByChain chainId = some interval) :
    (input.chainYpoSevenDay chainId).availability = .available ∧
      (input.chainYpoSevenDay chainId).value = some interval.nativeYpo := by
  unfold StablewatchPayloadInput.chainYpoSevenDay
  rw [selected]
  exact ⟨rfl, rfl⟩

/-- **What is selected for a chain with a row is published**, failed or not. -/
theorem publishes_of_selected {db : AnalyticsDatabase} {input : StablewatchPayloadInput}
    {payload : StablewatchPayload}
    (built : buildStablewatchAssetPayload
      { input with history := (readLatestSavingsHistory db).input } = .ok payload)
    {component : GlobalSavingsComponentInput}
    (mem : component ∈ input.global.components.getD []) {selected : ℕ × SavingsYieldInterval}
    (chosen : db.selectedYield component.chainId = some selected) :
    payload.Publishes selected.2 := by
  have entry : StablewatchPayloadInput.historyByChain
      { input with history := (readLatestSavingsHistory db).input } component.chainId
        = (db.selectedYield component.chainId).map (·.2.input) := historyByChain_input _ rfl
  rw [chosen] at entry
  obtain ⟨row, made⟩ := exists_chainRow built mem
  obtain ⟨same, history, metric⟩ := chainRow_history made
  refine ⟨row, (mem_chainBreakdown built row).mpr ⟨component, mem, made⟩,
    same.trans (mem_of_selectedYield chosen).2.symm, ?_, ?_⟩
  · rw [history, entry]
    rfl
  · rw [metric]
    exact (chainYpoSevenDay_available entry).1

/-- The chains of the history are nowhere else in the metrics. -/
theorem otherMetrics_eq_of_chains {input : StablewatchPayloadInput}
    {chains : Option (List HistoryChainInput)} {payload payload' : StablewatchPayload}
    (built : buildStablewatchAssetPayload input = .ok payload)
    (built' : buildStablewatchAssetPayload
      { input with history := { input.history with chains := chains } } = .ok payload') :
    payload'.savingsMetrics = payload.savingsMetrics ∧
      payload'.otherMetrics = payload.otherMetrics := by
  obtain ⟨estimate, estimated, built⟩ := bind_eq_ok.mp built
  obtain ⟨allTime, lifetime, built⟩ := bind_eq_ok.mp built
  obtain ⟨_, -, built⟩ := bind_eq_ok.mp built
  obtain ⟨estimate', estimated', built'⟩ := bind_eq_ok.mp built'
  obtain ⟨allTime', lifetime', built'⟩ := bind_eq_ok.mp built'
  obtain ⟨_, -, built'⟩ := bind_eq_ok.mp built'
  obtain rfl : estimate' = estimate := Except.ok.inj (estimated'.symm.trans estimated)
  obtain rfl : allTime' = allTime := Except.ok.inj (lifetime'.symm.trans lifetime)
  cases built
  cases built'
  exact ⟨rfl, rfl⟩

/-- **No failed interval is published, if and only if none is the one selected for a chain
that has a row.** -/
theorem invalid_unpublished_iff (db : AnalyticsDatabase) (input : StablewatchPayloadInput)
    (payload : StablewatchPayload)
    (built : buildStablewatchAssetPayload
      { input with history := (readLatestSavingsHistory db).input } = .ok payload) :
    (∀ row ∈ db.yields.rows, row.2.reconciliationStatus = .invalid → ¬ payload.Publishes row.2)
      ↔ ∀ component ∈ input.global.components.getD [], ∀ row,
        db.selectedYield component.chainId = some row →
          row.2.reconciliationStatus ≠ .invalid := by
  constructor
  · intro unpublished component mem selected chosen invalid
    exact unpublished selected (mem_of_selectedYield chosen).1 invalid
      (publishes_of_selected built mem chosen)
  · rintro fresh interval - invalid ⟨row, mem, -, shown, -⟩
    obtain ⟨component, given, made⟩ := (mem_chainBreakdown built row).mp mem
    obtain ⟨-, history, -⟩ := chainRow_history made
    have entry : StablewatchPayloadInput.historyByChain
        { input with history := (readLatestSavingsHistory db).input } component.chainId
          = (db.selectedYield component.chainId).map (·.2.input) := historyByChain_input _ rfl
    rw [entry, shown] at history
    cases chosen : db.selectedYield component.chainId with
    | none =>
        rw [chosen] at history
        cases history
    | some selected =>
        -- the history of a row carries the status of the interval
        rw [chosen] at history
        have status : interval.2.reconciliationStatus.text
            = selected.2.reconciliationStatus.text :=
          congrArg ChainHistory.reconciliationStatus (Option.some.inj history)
        rw [invalid] at status
        exact fresh component given selected chosen
          (ReconciliationStatus.text_eq_invalid.mp status.symm)

/-- One interval of seven days on the first chain, with a status. -/
def judgedInterval (status : ReconciliationStatus) : SavingsYieldInterval where
  chainId := 1
  startSnapshotId := 1
  endSnapshotId := 2
  fromBlock := 100
  toBlock := 200
  windowStart := 0
  windowEnd := 604800000
  accruedInterest := 7
  pendingYieldAtStart := 0
  pendingYieldAtEnd := 0
  nativeYpo := 7
  coverageScope := "parallel-savings-ethereum-0-604800-v1"
  windowConvention := SAVINGS_YPO_WINDOW_CONVENTION
  reconciliationStatus := status
  manifestVersion := "v1"
  calculationVersion := SAVINGS_YPO_CALCULATION_VERSION
  createdAt := 604900000

/-- A database with that interval and nothing else. -/
def judgedDatabase (status : ReconciliationStatus) : AnalyticsDatabase :=
  { AnalyticsDatabase.empty with yields := SerialTable.empty.insert (judgedInterval status) }

theorem selectedYield_judgedDatabase (status : ReconciliationStatus) :
    (judgedDatabase status).selectedYield 1 = some (1, judgedInterval status) := by
  cases status <;> decide

/-- The payload over that database, with a row for the first chain. -/
def judgedInput (status : ReconciliationStatus) : StablewatchPayloadInput :=
  { staleSavings (some ⟨some "900"⟩) [staleComponent] with
    history := (readLatestSavingsHistory (judgedDatabase status)).input }

theorem exists_judgedPayload :
    (buildStablewatchAssetPayload (judgedInput .verified)).toOption.isSome ∧
      (buildStablewatchAssetPayload (judgedInput .invalid)).toOption.isSome := by
  decide +kernel

theorem invalid_unpublished_iff_verified : ∃ payload,
    buildStablewatchAssetPayload (judgedInput .verified) = .ok payload ∧
      ∀ row ∈ (judgedDatabase .verified).yields.rows,
        row.2.reconciliationStatus = .invalid → ¬ payload.Publishes row.2 := by
  cases built : buildStablewatchAssetPayload (judgedInput .verified) with
  | error error =>
      have shown := exists_judgedPayload.1
      rw [built] at shown
      cases shown
  | ok payload =>
      refine ⟨payload, rfl, (invalid_unpublished_iff (judgedDatabase .verified)
        (staleSavings (some ⟨some "900"⟩) [staleComponent]) payload built).mpr ?_⟩
      intro component mem row chosen
      obtain rfl := List.mem_singleton.mp mem
      rw [show staleComponent.chainId = 1 from rfl, selectedYield_judgedDatabase] at chosen
      cases chosen
      decide

/-- The failed interval is the newest of its chain, and it is published. -/
theorem invalid_published :
    ¬ ∀ (db : AnalyticsDatabase) (input : StablewatchPayloadInput) (payload : StablewatchPayload),
      buildStablewatchAssetPayload
          { input with history := (readLatestSavingsHistory db).input } = .ok payload →
        ∀ row ∈ db.yields.rows, row.2.reconciliationStatus = .invalid →
          ¬ payload.Publishes row.2 := by
  intro never
  cases built : buildStablewatchAssetPayload (judgedInput .invalid) with
  | error error =>
      have shown := exists_judgedPayload.2
      rw [built] at shown
      cases shown
  | ok payload =>
      have chosen := selectedYield_judgedDatabase .invalid
      exact never (judgedDatabase .invalid) (staleSavings (some ⟨some "900"⟩) [staleComponent])
        payload built _ (mem_of_selectedYield chosen).1 rfl
        (publishes_of_selected built List.mem_cons_self chosen)

end UsdpIndexer
