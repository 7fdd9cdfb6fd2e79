import Mathlib.Algebra.Order.BigOperators.Group.List
import UsdpIndexer.Analytics.SavingsYield

/-!
# The end of `history-derive`

`deriveAlignedSavingsHistory` of `cli.ts`, from where the interval of every chain is there:
the command reconciles the *latest* interval of each savings chain, stops at the first that
is not verified, and then sums up the newest intervals of about the pinned window.  The
rows that it has derived are not named again.

The statements are committed one by one, so what has been set before the command stops
stays set.
-/

namespace UsdpIndexer

open SerialTable SelectFirst StableOrder

/-! ## The command -/

/-- The window of the command, in seconds; it lasts a day at least. -/
structure PinnedWindow where
  targetWindowStart : ℤ
  pinnedWindowEnd : ℤ
  ordered : targetWindowStart < pinnedWindowEnd

/-- The check of the latest interval of a chain. -/
def AnalyticsDatabase.reconcileLatestSavingsYield (db : AnalyticsDatabase)
    (adapter : SavingsChainAdapter) : Except JsError (Option Reconciliation × AnalyticsDatabase) :=
  db.reconcileSavingsYield adapter.chainId none

/-- A turn of the loop over the chains; an interval that is not verified ends the loop. -/
def reconcileAlignedChain (adapter : SavingsChainAdapter) (db : AnalyticsDatabase) :
    Except JsError Reconciliation × AnalyticsDatabase :=
  let unverified : JsError := ⟨s!"{adapter.chainName} aligned YPO reconciliation did not verify"⟩
  match db.reconcileLatestSavingsYield adapter with
  | .error error => (.error error, db)
  | .ok (none, db) => (.error unverified, db)
  | .ok (some reconciliation, db) =>
      if reconciliation.status = .verified then (.ok reconciliation, db)
      else (.error unverified, db)

/-- The loop over the adapters. -/
def reconcileAlignedChains :
    List SavingsChainAdapter → AnalyticsDatabase →
      Except JsError (List Reconciliation) × AnalyticsDatabase
  | [], db => (.ok [], db)
  | adapter :: adapters, db =>
      match reconcileAlignedChain adapter db with
      | (.error error, db) => (.error error, db)
      | (.ok reconciliation, db) =>
          match reconcileAlignedChains adapters db with
          | (.error error, db) => (.error error, db)
          | (.ok reconciliations, db) => (.ok (reconciliation :: reconciliations), db)

/-- `new Date(Number(seconds) * 1_000)` -/
def dateOfSeconds (seconds : ℤ) : ℤ := seconds * 1000

/-- What the whole returns. -/
structure AlignedHistory where
  reconciliations : List Reconciliation
  globalYieldId : ℕ
  global : SavingsYieldAggregate
deriving DecidableEq, Repr

/-- The command past its derivations. -/
def reconcileAlignedHistory (window : PinnedWindow) (db : AnalyticsDatabase) :
    Except JsError AlignedHistory × AnalyticsDatabase :=
  match reconcileAlignedChains savingsChainAdapters db with
  | (.error error, db) => (.error error, db)
  | (.ok reconciliations, db) =>
      match createGlobalSavingsYield (dateOfSeconds window.targetWindowStart)
          (dateOfSeconds window.pinnedWindowEnd) db with
      | .error error => (.error error, db)
      | .ok ((globalYieldId, global), db) =>
          if global.coverageStatus = .complete then
            (.ok ⟨reconciliations, globalYieldId, global⟩, db)
          else (.error ⟨"Aligned global YPO did not include all five chains"⟩, db)

/-! ## What it should come to -/

/-- `reconcileSavingsYield` finds the interval, of the chain or under the number, verified. -/
def AnalyticsDatabase.Reconciles (db : AnalyticsDatabase) (chainId : ℕ)
    (savingsYieldId : Option ℕ) : Prop :=
  (db.reconcileSavingsYield chainId savingsYieldId).map (·.1.map (·.status))
    = .ok (some .verified)

/-- There is such a row, and it is verified. -/
def AnalyticsDatabase.IsVerified (db : AnalyticsDatabase) (savingsYieldId : ℕ) : Prop :=
  (db.yields.find? savingsYieldId).map (·.reconciliationStatus) = some .verified

/-- The command succeeds with a complete sum, and the aligned interval of every chain is
verified afterwards. -/
def AnalyticsDatabase.AlignedSucceeds (db : AnalyticsDatabase) (aligned : ℕ → ℕ)
    (window : PinnedWindow) : Prop :=
  ∃ history, (reconcileAlignedHistory window db).1 = .ok history ∧
    history.global.coverageStatus = .complete ∧
    ∀ chainId ∈ savingsChainIds, (reconcileAlignedHistory window db).2.IsVerified (aligned chainId)

/-! ## Verdicts do not depend on verdicts -/

/-- The row is verified if its number is among these. -/
def verifyAmong (ids : List ℕ) (id : ℕ) (row : SavingsYieldInterval) : SavingsYieldInterval :=
  if id ∈ ids then { row with reconciliationStatus := .verified } else row

/-- The intervals with these numbers have been found verified. -/
def AnalyticsDatabase.withVerified (db : AnalyticsDatabase) (ids : List ℕ) : AnalyticsDatabase :=
  { db with yields := db.yields.update (verifyAmong ids) }

section Marks

variable (ids : List ℕ) (id : ℕ) (row : SavingsYieldInterval)

@[simp] theorem verifyAmong_chainId : (verifyAmong ids id row).chainId = row.chainId := by
  unfold verifyAmong
  split <;> rfl

@[simp] theorem verifyAmong_nativeYpo : (verifyAmong ids id row).nativeYpo = row.nativeYpo := by
  unfold verifyAmong
  split <;> rfl

theorem verifyAmong_eq : verifyAmong ids id row = { row with
    reconciliationStatus := if id ∈ ids then .verified else row.reconciliationStatus } := by
  unfold verifyAmong
  split <;> rfl

theorem verifyAmong_status : (verifyAmong ids id row).reconciliationStatus = .verified
    ↔ id ∈ ids ∨ row.reconciliationStatus = .verified := by
  by_cases among : id ∈ ids <;> simp [verifyAmong_eq, among]

end Marks

theorem setStatus_verified (db : AnalyticsDatabase) (id : ℕ) :
    db.setStatus id .verified = db.withVerified [id] := by
  unfold AnalyticsDatabase.setStatus AnalyticsDatabase.withVerified
  congr
  funext i row
  simp [verifyAmong]

@[simp] theorem withVerified_nil (db : AnalyticsDatabase) : db.withVerified [] = db := by
  simp [AnalyticsDatabase.withVerified, SerialTable.update, verifyAmong]

theorem withVerified_withVerified (db : AnalyticsDatabase) (ids ids' : List ℕ) :
    (db.withVerified ids).withVerified ids' = db.withVerified (ids ++ ids') := by
  have twice (row : ℕ × SavingsYieldInterval) :
      verifyAmong ids' row.1 (verifyAmong ids row.1 row.2)
        = verifyAmong (ids ++ ids') row.1 row.2 := by
    by_cases first : row.1 ∈ ids <;> by_cases second : row.1 ∈ ids' <;>
      simp [verifyAmong_eq, first, second]
  simp only [AnalyticsDatabase.withVerified, SerialTable.update, List.map_map, Function.comp_def,
    twice]

/-- The interval to be reconciled is chosen without regard to verdicts. -/
theorem selectInterval_withVerified (db : AnalyticsDatabase) (ids : List ℕ) (chainId : ℕ)
    (savingsYieldId : Option ℕ) :
    (db.withVerified ids).savings.selectInterval chainId savingsYieldId
      = db.savings.selectInterval chainId savingsYieldId := by
  set mark : SavingsYieldRow → SavingsYieldRow := fun row =>
    { row with reconciliationStatus :=
        if row.id ∈ ids then .verified else row.reconciliationStatus } with hmark
  have marked : (db.withVerified ids).savings.yields = db.savings.yields.map mark := by
    simp only [AnalyticsDatabase.savings, AnalyticsDatabase.withVerified, SerialTable.update,
      List.map_map]
    refine List.map_congr_left fun row _ => ?_
    simp [hmark, SavingsYieldInterval.reconciliationRow, verifyAmong_eq]
  have joined (row : SavingsYieldRow) : (db.withVerified ids).savings.joinSnapshots (mark row)
      = db.savings.joinSnapshots row := rfl
  unfold SavingsDatabase.selectInterval
  simp only [marked, List.filter_map]
  rw [sortBy_map (f := mark) fun a b => rfl, List.filterMap_map]
  simp only [Function.comp_def, joined]
  rfl

theorem reconciles_iff {db : AnalyticsDatabase} {chainId : ℕ} {savingsYieldId : Option ℕ} :
    db.Reconciles chainId savingsYieldId
      ↔ ∃ row reconciliation, db.savings.selectInterval chainId savingsYieldId = some row ∧
          reconcileRow row (readRateEvents db.index chainId row.fromBlock row.toBlock)
            = .ok reconciliation ∧ reconciliation.status = .verified := by
  unfold AnalyticsDatabase.Reconciles AnalyticsDatabase.reconcileSavingsYield
  cases db.savings.selectInterval chainId savingsYieldId with
  | none => simp [Except.map]
  | some row =>
      cases decided : reconcileRow row
          (readRateEvents db.index chainId row.fromBlock row.toBlock) with
      | error error => simp [decided, bind, Except.bind, Except.map]
      | ok reconciliation => simp [decided, bind, Except.bind, Except.map, pure, Except.pure]

/-- And so is the verdict. -/
theorem reconciles_withVerified {db : AnalyticsDatabase} {ids : List ℕ} {chainId : ℕ}
    {savingsYieldId : Option ℕ} :
    (db.withVerified ids).Reconciles chainId savingsYieldId
      ↔ db.Reconciles chainId savingsYieldId := by
  rw [reconciles_iff, reconciles_iff, selectInterval_withVerified]
  rfl

/-! ## The loop -/

/-- The number of the interval that is reconciled for a chain. -/
def AnalyticsDatabase.latestId (db : AnalyticsDatabase) (chainId : ℕ) : Option ℕ :=
  (db.savings.selectInterval chainId none).map (·.id)

theorem reconcileAlignedChain_cases (adapter : SavingsChainAdapter) (db : AnalyticsDatabase) :
    (db.Reconciles adapter.chainId none ∧ ∃ id reconciliation,
      db.latestId adapter.chainId = some id ∧
        reconcileAlignedChain adapter db = (.ok reconciliation, db.withVerified [id])) ∨
    (¬ db.Reconciles adapter.chainId none ∧
      ∃ error, (reconcileAlignedChain adapter db).1 = .error error) := by
  rw [reconciles_iff]
  unfold reconcileAlignedChain AnalyticsDatabase.reconcileLatestSavingsYield
    AnalyticsDatabase.reconcileSavingsYield AnalyticsDatabase.latestId
  cases db.savings.selectInterval adapter.chainId none with
  | none => exact .inr ⟨by simp, _, rfl⟩
  | some row =>
      cases decided : reconcileRow row
          (readRateEvents db.index adapter.chainId row.fromBlock row.toBlock) with
      | error error =>
          refine .inr ⟨by simp [decided], error, ?_⟩
          simp [decided, bind, Except.bind]
      | ok reconciliation =>
          by_cases verified : reconciliation.status = .verified
          · refine .inl ⟨⟨row, reconciliation, rfl, decided, verified⟩, row.id, reconciliation,
              rfl, ?_⟩
            simp [decided, bind, Except.bind, pure, Except.pure, verified, setStatus_verified]
          · refine .inr ⟨by simp [decided, verified], ?_⟩
            simp [decided, bind, Except.bind, pure, Except.pure, verified]

/-- The loop goes through if every latest interval is verified, and then they are set so. -/
theorem reconcileAlignedChains_of_reconciles {adapters : List SavingsChainAdapter} :
    ∀ {db : AnalyticsDatabase}, (∀ adapter ∈ adapters, db.Reconciles adapter.chainId none) →
      ∃ reconciliations, reconcileAlignedChains adapters db = (.ok reconciliations,
        db.withVerified (adapters.filterMap fun adapter => db.latestId adapter.chainId)) := by
  induction adapters with
  | nil =>
      intro db _
      exact ⟨[], by rw [reconcileAlignedChains, List.filterMap_nil, withVerified_nil]⟩
  | cons adapter adapters ih =>
      intro db verified
      rcases reconcileAlignedChain_cases adapter db with
        ⟨-, id, reconciliation, latest, first⟩ | ⟨unverified, -⟩
      · have others : ∀ other ∈ adapters, (db.withVerified [id]).Reconciles other.chainId none :=
          fun other mem =>
            reconciles_withVerified.mpr (verified other (List.mem_cons_of_mem _ mem))
        obtain ⟨reconciliations, rest⟩ := ih others
        refine ⟨reconciliation :: reconciliations, ?_⟩
        have latestIds (other : SavingsChainAdapter) :
            (db.withVerified [id]).latestId other.chainId = db.latestId other.chainId := by
          rw [AnalyticsDatabase.latestId, selectInterval_withVerified, AnalyticsDatabase.latestId]
        simp only [latestIds] at rest
        simp only [reconcileAlignedChains, first, rest, withVerified_withVerified,
          List.filterMap_cons, latest, List.singleton_append]
      · exact absurd (verified adapter List.mem_cons_self) unverified

/-- It fails otherwise. -/
theorem reconciles_of_reconcileAlignedChains {adapters : List SavingsChainAdapter} :
    ∀ {db : AnalyticsDatabase} {reconciliations : List Reconciliation},
      (reconcileAlignedChains adapters db).1 = .ok reconciliations →
        ∀ adapter ∈ adapters, db.Reconciles adapter.chainId none := by
  induction adapters with
  | nil => exact fun _ _ mem => absurd mem List.not_mem_nil
  | cons adapter adapters ih =>
      intro db reconciliations succeeded other mem
      rw [reconcileAlignedChains] at succeeded
      rcases reconcileAlignedChain_cases adapter db with
        ⟨verified, id, reconciliation, -, first⟩ | ⟨-, error, failed⟩
      · rcases List.mem_cons.mp mem with rfl | later
        · exact verified
        · simp only [first] at succeeded
          cases rest : reconcileAlignedChains adapters (db.withVerified [id]) with
          | mk result db' =>
              rw [rest] at succeeded
              cases result with
              | error error => cases succeeded
              | ok others =>
                  exact reconciles_withVerified.mp (ih (by rw [rest]) other later)
      · cases outcome : reconcileAlignedChain adapter db with
        | mk result db' =>
            rw [outcome] at failed succeeded
            obtain rfl : result = .error error := failed
            cases succeeded

/-! ## What it leaves -/

/-- The interval that is reconciled is one of the chain. -/
theorem find?_of_selectInterval {db : AnalyticsDatabase} {chainId : ℕ}
    {savingsYieldId : Option ℕ} {row : YieldReconciliationRow}
    (selected : db.savings.selectInterval chainId savingsYieldId = some row) :
    (savingsYieldId = none ∨ savingsYieldId = some row.id) ∧
      ∃ interval, db.yields.find? row.id = some interval ∧ interval.chainId = chainId := by
  obtain ⟨narrow, mem, joined⟩ := List.mem_filterMap.mp
    (List.mem_of_mem_head? (Option.mem_def.mpr selected))
  obtain ⟨inside, asked⟩ := List.mem_filter.mp (mem_sortBy.mp mem)
  obtain ⟨entry, stored, rfl⟩ := List.mem_map.mp inside
  obtain ⟨ofChain, numbered⟩ := of_decide_eq_true asked
  unfold SavingsDatabase.joinSnapshots at joined
  obtain ⟨start, -, joined⟩ := Option.bind_eq_some_iff.mp joined
  obtain ⟨finish, -, joined⟩ := Option.bind_eq_some_iff.mp joined
  cases joined
  exact ⟨numbered, entry.2, find?_eq_some_iff.mpr stored, ofChain⟩

/-- The numbers of the intervals that the loop reconciles. -/
def AnalyticsDatabase.latestIds (db : AnalyticsDatabase) : List ℕ :=
  savingsChainIds.filterMap db.latestId

theorem mem_latestIds {db : AnalyticsDatabase} {id : ℕ} {interval : SavingsYieldInterval}
    (stored : db.yields.find? id = some interval) (ofSavings : interval.chainId ∈ savingsChainIds) :
    id ∈ db.latestIds ↔ db.latestId interval.chainId = some id := by
  rw [AnalyticsDatabase.latestIds, List.mem_filterMap]
  constructor
  · rintro ⟨chainId, -, latest⟩
    obtain ⟨row, selected, rfl⟩ := Option.map_eq_some_iff.mp latest
    obtain ⟨-, other, found, ofChain⟩ := find?_of_selectInterval selected
    obtain rfl : interval = other := Option.some.inj (stored.symm.trans found)
    rw [ofChain]
    exact latest
  · exact fun latest => ⟨interval.chainId, ofSavings, latest⟩

theorem isVerified_withVerified {db : AnalyticsDatabase} {ids : List ℕ} {id : ℕ}
    {interval : SavingsYieldInterval} (stored : db.yields.find? id = some interval) :
    (db.withVerified ids).IsVerified id ↔ id ∈ ids ∨ db.IsVerified id := by
  unfold AnalyticsDatabase.IsVerified AnalyticsDatabase.withVerified
  rw [find?_update, stored]
  simpa using verifyAmong_status ids id interval

/-- The selection for the sum is made without regard to verdicts. -/
theorem windowYields_withVerified (db : AnalyticsDatabase) (ids : List ℕ)
    (windowStart windowEnd : ℤ) :
    (db.withVerified ids).windowYields windowStart windowEnd
      = (db.windowYields windowStart windowEnd).map fun row =>
          (row.1, verifyAmong ids row.1 row.2) := by
  unfold AnalyticsDatabase.windowYields
  rw [← distinctOn_map (by simp) fun a b => by simp [newestFirst, verifyAmong_eq]]
  congr 1
  show (db.yields.rows.map fun row => (row.1, verifyAmong ids row.1 row.2)).filter _ = _
  rw [List.filter_map]
  simp only [Function.comp_def, verifyAmong_eq]

/-- The sum is complete if the interval that is selected for each chain is verified. -/
theorem yieldAggregate_complete_iff {db : AnalyticsDatabase} {windowStart windowEnd : ℤ} :
    (db.yieldAggregate windowStart windowEnd).coverageStatus = .complete
      ↔ ∀ chainId ∈ savingsChainIds, ∃ row ∈ db.windowYields windowStart windowEnd,
          row.2.chainId = chainId ∧ row.2.reconciliationStatus = .verified := by
  have reported : Accounting.Reported (·.chainId) savingsChainIds
      ((db.windowYields windowStart windowEnd).map yieldComponent) := by
    refine ⟨by decide, by decide, ?_, ?_⟩
    · rw [List.map_map]
      exact nodup_distinctOn
    · intro component mem
      obtain ⟨row, selected, rfl⟩ := List.mem_map.mp mem
      exact (of_decide_eq_true (List.mem_filter.mp (mem_of_mem_distinctOn selected)).2).1
  rw [AnalyticsDatabase.yieldAggregate, aggregateSavingsYieldComponents,
    coverageStatus_eq_complete, reported.length_filter_eq_length_iff]
  constructor
  · rintro ⟨all, verified⟩ chainId mem
    obtain ⟨component, inside, rfl⟩ := List.mem_map.mp (all chainId mem)
    have status := of_decide_eq_true (verified component inside)
    obtain ⟨row, selected, rfl⟩ := List.mem_map.mp inside
    exact ⟨row, selected, rfl, status⟩
  · intro served
    constructor
    · intro chainId mem
      obtain ⟨row, selected, rfl, -⟩ := served chainId mem
      exact List.mem_map.mpr ⟨_, List.mem_map_of_mem selected, rfl⟩
    · intro component mem
      obtain ⟨row, selected, rfl⟩ := List.mem_map.mp mem
      obtain ⟨other, chosen, same, status⟩ := served row.2.chainId
        (reported.subset _ (List.mem_map_of_mem selected))
      rw [eq_of_mem_distinctOn chosen selected same] at status
      exact decide_eq_true status

/-- `savings_yield_amounts_check` on the yields. -/
def AnalyticsDatabase.AmountsChecked (db : AnalyticsDatabase) : Prop :=
  ∀ row ∈ db.yields.rows, 0 ≤ row.2.nativeYpo

instance (db : AnalyticsDatabase) : Decidable db.AmountsChecked :=
  inferInstanceAs (Decidable (∀ row ∈ db.yields.rows, _))

/-- Nothing but the window of a sum can make it fail on rows that pass their checks. -/
theorem createGlobalSavingsYield_of_checked {db : AnalyticsDatabase} (checked : db.AmountsChecked)
    {windowStart windowEnd : ℤ} (ordered : windowStart < windowEnd) :
    ∃ globalYieldId db', createGlobalSavingsYield windowStart windowEnd db
        = .ok ((globalYieldId, db.yieldAggregate windowStart windowEnd), db') ∧
      db'.yields = db.yields := by
  have nonneg : 0 ≤ (db.yieldAggregate windowStart windowEnd).nativeYpo := by
    refine List.sum_nonneg fun amount mem => ?_
    obtain ⟨component, kept, rfl⟩ := List.mem_map.mp mem
    obtain ⟨row, selected, rfl⟩ := List.mem_map.mp (List.mem_filter.mp kept).1
    exact checked row (List.mem_filter.mp (mem_of_mem_distinctOn selected)).1
  unfold createGlobalSavingsYield
  rw [if_neg (not_le.mpr ordered), if_neg (not_lt.mpr nonneg)]
  exact ⟨_, _, rfl, rfl⟩

theorem PinnedWindow.dates_ordered (window : PinnedWindow) :
    dateOfSeconds window.targetWindowStart < dateOfSeconds window.pinnedWindowEnd := by
  have ordered := window.ordered
  unfold dateOfSeconds
  omega

theorem amountsChecked_withVerified {db : AnalyticsDatabase} (checked : db.AmountsChecked)
    (ids : List ℕ) : (db.withVerified ids).AmountsChecked := by
  intro row mem
  obtain ⟨old, stored, rfl⟩ := List.mem_map.mp mem
  rw [verifyAmong_nativeYpo]
  exact checked old stored

/-- The loop over the savings chains, if every latest interval is verified. -/
theorem reconcileAlignedChains_savings {db : AnalyticsDatabase}
    (verified : ∀ chainId ∈ savingsChainIds, db.Reconciles chainId none) :
    ∃ reconciliations, reconcileAlignedChains savingsChainAdapters db
      = (.ok reconciliations, db.withVerified db.latestIds) := by
  have latestIds : (savingsChainAdapters.filterMap fun adapter => db.latestId adapter.chainId)
      = db.latestIds := by
    rw [AnalyticsDatabase.latestIds, savingsChainIds, List.filterMap_map]
    rfl
  rw [← latestIds]
  exact reconcileAlignedChains_of_reconciles fun adapter mem =>
    verified adapter.chainId (List.mem_map_of_mem mem)

/-- A command that succeeds has found every latest interval verified. -/
theorem reconciles_of_reconcileAlignedHistory {db : AnalyticsDatabase} {window : PinnedWindow}
    {history : AlignedHistory} (succeeded : (reconcileAlignedHistory window db).1 = .ok history) :
    ∀ chainId ∈ savingsChainIds, db.Reconciles chainId none := by
  intro chainId mem
  obtain ⟨adapter, hadapter, rfl⟩ := List.mem_map.mp mem
  unfold reconcileAlignedHistory at succeeded
  cases outcome : reconcileAlignedChains savingsChainAdapters db with
  | mk result db' =>
      rw [outcome] at succeeded
      cases result with
      | error error => cases succeeded
      | ok reconciliations =>
          exact reconciles_of_reconcileAlignedChains (by rw [outcome]) adapter hadapter

/-- The command succeeds if the loop goes through and what it leaves is complete. -/
theorem alignedSucceeds_iff {db : AnalyticsDatabase} (checked : db.AmountsChecked)
    (aligned : ℕ → ℕ) (window : PinnedWindow) :
    db.AlignedSucceeds aligned window
      ↔ (∀ chainId ∈ savingsChainIds, db.Reconciles chainId none) ∧
        ((db.withVerified db.latestIds).yieldAggregate (dateOfSeconds window.targetWindowStart)
          (dateOfSeconds window.pinnedWindowEnd)).coverageStatus = .complete ∧
        ∀ chainId ∈ savingsChainIds,
          (db.withVerified db.latestIds).IsVerified (aligned chainId) := by
  obtain ⟨globalYieldId, db', created, unchanged⟩ := createGlobalSavingsYield_of_checked
    (amountsChecked_withVerified checked db.latestIds) window.dates_ordered
  have sameVerdicts (id : ℕ) :
      db'.IsVerified id ↔ (db.withVerified db.latestIds).IsVerified id := by
    rw [AnalyticsDatabase.IsVerified, unchanged, AnalyticsDatabase.IsVerified]
  constructor
  · rintro ⟨history, succeeded, complete, verifiedAfter⟩
    have verified := reconciles_of_reconcileAlignedHistory succeeded
    obtain ⟨reconciliations, went⟩ := reconcileAlignedChains_savings verified
    unfold reconcileAlignedHistory at succeeded verifiedAfter
    simp only [went, created] at succeeded verifiedAfter
    split at succeeded
    · rename_i sumComplete
      rw [if_pos sumComplete] at verifiedAfter
      exact ⟨verified, sumComplete, fun chainId mem =>
        (sameVerdicts _).mp (verifiedAfter chainId mem)⟩
    · cases succeeded
  · rintro ⟨verified, complete, verifiedAfter⟩
    obtain ⟨reconciliations, went⟩ := reconcileAlignedChains_savings verified
    unfold AnalyticsDatabase.AlignedSucceeds reconcileAlignedHistory
    simp only [went, created, if_pos complete]
    exact ⟨_, rfl, complete, fun chainId mem => (sameVerdicts _).mpr (verifiedAfter chainId mem)⟩

/-! ## When the derived intervals are the reconciled ones -/

/-- What the command needs of a chain: its latest interval is verified by reconciliation, and
both its aligned interval and the one that is selected for the sum are that interval or
verified already. -/
def AnalyticsDatabase.LatestServes (db : AnalyticsDatabase) (aligned : ℕ → ℕ)
    (window : PinnedWindow) (chainId : ℕ) : Prop :=
  db.Reconciles chainId none ∧
    (db.latestId chainId = some (aligned chainId) ∨ db.IsVerified (aligned chainId)) ∧
    ∃ row ∈ db.windowYields (dateOfSeconds window.targetWindowStart)
        (dateOfSeconds window.pinnedWindowEnd),
      row.2.chainId = chainId ∧
        (db.latestId chainId = some row.1 ∨ row.2.reconciliationStatus = .verified)

/-- The derived interval of a chain is verified after the loop if it is the chain's latest, or was
verified before. -/
theorem isVerified_after_loop {db : AnalyticsDatabase} {chainId savingsYieldId : ℕ}
    (mem : chainId ∈ savingsChainIds) (verifiable : db.Reconciles chainId (some savingsYieldId)) :
    (db.withVerified db.latestIds).IsVerified savingsYieldId
      ↔ db.latestId chainId = some savingsYieldId ∨ db.IsVerified savingsYieldId := by
  obtain ⟨row, _, selected, -, -⟩ := reconciles_iff.mp verifiable
  obtain ⟨numbered, interval, stored, ofChain⟩ := find?_of_selectInterval selected
  obtain numbered : savingsYieldId = row.id := by simpa using numbered
  rw [← numbered] at stored
  subst ofChain
  rw [isVerified_withVerified stored, mem_latestIds stored mem]

/-- After the loop, the interval that serves a window for a chain is verified if it is the
chain's latest, or was verified before. -/
theorem windowYields_after_loop {db : AnalyticsDatabase} {chainId : ℕ}
    (mem : chainId ∈ savingsChainIds) (windowStart windowEnd : ℤ) :
    (∃ row ∈ (db.withVerified db.latestIds).windowYields windowStart windowEnd,
        row.2.chainId = chainId ∧ row.2.reconciliationStatus = .verified)
      ↔ ∃ row ∈ db.windowYields windowStart windowEnd, row.2.chainId = chainId ∧
          (db.latestId chainId = some row.1 ∨ row.2.reconciliationStatus = .verified) := by
  have step : ∀ row ∈ db.windowYields windowStart windowEnd, row.2.chainId = chainId →
      ((verifyAmong db.latestIds row.1 row.2).reconciliationStatus = .verified
        ↔ db.latestId chainId = some row.1 ∨ row.2.reconciliationStatus = .verified) := by
    rintro row selected rfl
    have stored : db.yields.find? row.1 = some row.2 :=
      find?_eq_some_iff.mpr (List.mem_filter.mp (mem_of_mem_distinctOn selected)).1
    rw [verifyAmong_status, mem_latestIds stored mem]
  rw [windowYields_withVerified]
  constructor
  · rintro ⟨_, inside, ofChain, status⟩
    obtain ⟨row, selected, rfl⟩ := List.mem_map.mp inside
    rw [verifyAmong_chainId] at ofChain
    exact ⟨row, selected, ofChain, (step row selected ofChain).mp status⟩
  · rintro ⟨row, selected, ofChain, status⟩
    exact ⟨_, List.mem_map_of_mem selected, by rw [verifyAmong_chainId]; exact ofChain,
      (step row selected ofChain).mpr status⟩

/-- **The derived interval is not always the reconciled one.**  Let the aligned interval of
every savings chain be one that would be verified.  The command then succeeds, with all of
them verified and a complete sum, if and only if the latest interval serves every chain. -/
theorem alignedSucceeds_iff_latestServes (db : AnalyticsDatabase) (checked : db.AmountsChecked)
    (aligned : ℕ → ℕ) (window : PinnedWindow)
    (verifiable : ∀ chainId ∈ savingsChainIds, db.Reconciles chainId (some (aligned chainId))) :
    db.AlignedSucceeds aligned window
      ↔ ∀ chainId ∈ savingsChainIds, db.LatestServes aligned window chainId := by
  rw [alignedSucceeds_iff checked, yieldAggregate_complete_iff]
  constructor
  · rintro ⟨verified, complete, verifiedAfter⟩ chainId mem
    have derived := (isVerified_after_loop mem (verifiable chainId mem)).mp
      (verifiedAfter chainId mem)
    exact ⟨verified chainId mem, derived,
      (windowYields_after_loop mem _ _).mp (complete chainId mem)⟩
  · intro served
    refine ⟨fun chainId mem => (served chainId mem).1, fun chainId mem => ?_, fun chainId mem => ?_⟩
    · exact (windowYields_after_loop mem _ _).mpr (served chainId mem).2.2
    · exact (isVerified_after_loop mem (verifiable chainId mem)).mpr (served chainId mem).2.1

/-! ### Idle vaults

Every vault holds 100 and earns nothing.  The window is the second day after the epoch. -/

/-- The window. -/
def secondDay : PinnedWindow := ⟨86400, 172800, by decide⟩

/-- The vault of a chain at a time in seconds; its blocks are numbered by their times. -/
def idleSnapshot (chainId : ℕ) (time : ℤ) : SavingsChainSnapshot where
  chainId := chainId
  blockNumber := time
  blockHash := s!"0x{time}"
  blockTimestamp := dateOfSeconds time
  usdpSnapshotId := 1
  susdpSnapshotId := 2
  susdpTotalAssets := 100
  susdpActualAssets := 100
  susdpPendingYield := 0
  susdpSharePriceUsdp := 10 ^ 18
  susdpRate := 0
  susdpLastUpdate := 0
  susdpEstimatedApy := 0
  susdpMaxRate := 10 ^ 27
  susdpPauseState := 0
  usdpImplementation := "0x"
  susdpImplementation := "0x"
  assetRelationshipVerified := true
  snapshotStatus := .candidate
  manifestVersion := ""
  calculationVersion := ""
  createdAt := 0

/-- The interval of a chain between two such snapshots. -/
def idleInterval (adapter : SavingsChainAdapter) (scope : String) (startSnapshotId : ℕ)
    (first last : ℤ) (status : ReconciliationStatus) : SavingsYieldInterval where
  chainId := adapter.chainId
  startSnapshotId := startSnapshotId
  endSnapshotId := startSnapshotId + 1
  fromBlock := first
  toBlock := last
  windowStart := dateOfSeconds first
  windowEnd := dateOfSeconds last
  accruedInterest := 0
  pendingYieldAtStart := 0
  pendingYieldAtEnd := 0
  nativeYpo := 0
  coverageScope := scope
  windowConvention := SAVINGS_YPO_WINDOW_CONVENTION
  reconciliationStatus := status
  manifestVersion := adapter.manifestVersion
  calculationVersion := SAVINGS_YPO_CALCULATION_VERSION
  createdAt := 0

/-- Add an interval with its snapshots. -/
def AnalyticsDatabase.addIdle (db : AnalyticsDatabase) (adapter : SavingsChainAdapter)
    (scope : String) (first last : ℤ) (status : ReconciliationStatus) : AnalyticsDatabase :=
  { db with
    savingsSnapshots := (db.savingsSnapshots.insert (idleSnapshot adapter.chainId first)).insert
      (idleSnapshot adapter.chainId last)
    yields := db.yields.insert
      (idleInterval adapter scope db.savingsSnapshots.next first last status) }

/-- The interval of the second day on every chain, verified on HyperEVM only. -/
def secondDayStore : AnalyticsDatabase :=
  savingsChainAdapters.foldl (fun db adapter =>
    db.addIdle adapter (savingsHistoryScope adapter 86400 172800) 86400 172800
      (if adapter.chainId = HYPEREVM_CHAIN_ID then .verified else .candidate)) .empty

/-- The intervals are numbered as the chains are. -/
def secondDayId (chainId : ℕ) : ℕ := savingsChainIds.idxOf chainId + 1

instance (db : AnalyticsDatabase) (chainId : ℕ) (savingsYieldId : Option ℕ) :
    Decidable (db.Reconciles chainId savingsYieldId) :=
  inferInstanceAs (Decidable (_ = _))

instance (db : AnalyticsDatabase) (savingsYieldId : ℕ) : Decidable (db.IsVerified savingsYieldId) :=
  inferInstanceAs (Decidable (_ = _))

instance (db : AnalyticsDatabase) (aligned : ℕ → ℕ) (window : PinnedWindow) (chainId : ℕ) :
    Decidable (db.LatestServes aligned window chainId) :=
  inferInstanceAs (Decidable (_ ∧ _ ∧ ∃ row ∈ _, _))

/-- These intervals can be verified, and they serve the window. -/
theorem latestServes_secondDay : secondDayStore.AmountsChecked ∧
    (∀ chainId ∈ savingsChainIds, secondDayStore.Reconciles chainId (some (secondDayId chainId))) ∧
      ∀ chainId ∈ savingsChainIds, secondDayStore.LatestServes secondDayId secondDay chainId := by
  decide +kernel

/-- With these intervals alone the command succeeds. -/
theorem alignedSucceeds_secondDay : secondDayStore.AlignedSucceeds secondDayId secondDay := by
  obtain ⟨checked, verifiable, served⟩ := latestServes_secondDay
  exact (alignedSucceeds_iff_latestServes secondDayStore checked secondDayId secondDay
    verifiable).mpr served

/-- Ethereum has an interval of its first three days besides. -/
def lifetimeStore : AnalyticsDatabase :=
  match savingsChainAdapters with
  | [] => secondDayStore
  | ethereum :: _ =>
      secondDayStore.addIdle ethereum (savingsHistoryScope ethereum 0 259200) 0 259200 .candidate

/-- The loop then reconciles that interval, the derived one remains a candidate, and the sum
lacks Ethereum. -/
theorem alignedSucceeds_fails_lifetime :
    (∀ chainId ∈ savingsChainIds, lifetimeStore.Reconciles chainId (some (secondDayId chainId))) ∧
      lifetimeStore.AmountsChecked ∧ ¬ lifetimeStore.AlignedSucceeds secondDayId secondDay := by
  have stopped :
      (∀ chainId ∈ savingsChainIds,
        lifetimeStore.Reconciles chainId (some (secondDayId chainId))) ∧
      lifetimeStore.AmountsChecked ∧
      (reconcileAlignedHistory secondDay lifetimeStore).1
        = .error ⟨"Aligned global YPO did not include all five chains"⟩ := by
    decide +kernel
  obtain ⟨verifiable, checked, stopped⟩ := stopped
  refine ⟨verifiable, checked, ?_⟩
  rintro ⟨history, succeeded, -⟩
  rw [stopped] at succeeded
  cases succeeded

end UsdpIndexer
