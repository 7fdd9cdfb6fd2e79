import UsdpIndexer.Analytics.AnalyticsSystem

/-!
# The global yield and the intervals returned with it

`createGlobalSavingsYield` adds up the verified intervals of about a window, whatever their
scopes are called; `readLatestSavingsHistory` returns the latest sum with the newest
intervals whose scope carries the name of the window.  The links between the two that are
stored are not read.

A history is consistent if its sum is the sum of its intervals
(`SavingsHistory.Consistent`).  `KeepsHistory` says what a call has to respect for that, and
`history_consistent` that it is enough, over every sequence of calls.
-/

namespace UsdpIndexer

open SerialTable SelectFirst StableOrder FailingFold

/-! ## Histories that add up -/

/-- The returned intervals of the chains that a sum includes. -/
def GlobalSavingsYield.includedRows (global : GlobalSavingsYield)
    (chains : List (ℕ × SavingsYieldInterval)) : List (ℕ × SavingsYieldInterval) :=
  chains.filter fun row => row.2.chainId ∈ global.includedChainIds

/-- The sum is the one over these intervals, all of them verified. -/
structure GlobalSavingsYield.SumOf (global : GlobalSavingsYield)
    (chains : List (ℕ × SavingsYieldInterval)) : Prop where
  total : global.nativeYpo = ((global.includedRows chains).map (·.2.nativeYpo)).sum
  verified : ∀ row ∈ global.includedRows chains, row.2.reconciliationStatus = .verified

/-- A sum that is returned is that of the intervals that are returned with it. -/
def SavingsHistory.Consistent (history : SavingsHistory) : Prop :=
  ∀ global, history.global = some global → global.2.SumOf history.chains

theorem readLatestSavingsHistory_consistent_iff {db : AnalyticsDatabase} :
    (readLatestSavingsHistory db).Consistent
      ↔ ∀ global, db.latestGlobalYield = some global → db.alignedYields global.2 ≠ [] →
          global.2.SumOf (db.alignedYields global.2) := by
  unfold SavingsHistory.Consistent readLatestSavingsHistory
  cases db.latestGlobalYield with
  | none => by_cases empty : db.sevenDayYields = [] <;> simp [empty]
  | some global => by_cases empty : db.alignedYields global.2 = [] <;> simp [empty]

/-- What consistency depends on. -/
theorem readLatestSavingsHistory_consistent_congr {db db' : AnalyticsDatabase}
    (yields : db'.yields = db.yields) (globalYields : db'.globalYields = db.globalYields) :
    (readLatestSavingsHistory db').Consistent ↔ (readLatestSavingsHistory db).Consistent := by
  have latest : db'.latestGlobalYield = db.latestGlobalYield := by
    rw [AnalyticsDatabase.latestGlobalYield, globalYields, AnalyticsDatabase.latestGlobalYield]
  have aligned (global : GlobalSavingsYield) :
      db'.alignedYields global = db.alignedYields global := by
    rw [AnalyticsDatabase.alignedYields, yields, AnalyticsDatabase.alignedYields]
  simp only [readLatestSavingsHistory_consistent_iff, latest, aligned]

/-- Sums are over the same intervals, in whatever order. -/
theorem GlobalSavingsYield.SumOf.of_perm {global : GlobalSavingsYield}
    {chains chains' : List (ℕ × SavingsYieldInterval)} (sum : global.SumOf chains)
    (perm : (global.includedRows chains').Perm (global.includedRows chains)) :
    global.SumOf chains' where
  total := by rw [sum.total, (perm.map _).sum_eq]
  verified := fun row mem => sum.verified row (perm.mem_iff.mp mem)

theorem nodup_alignedYields {db : AnalyticsDatabase} {global : GlobalSavingsYield} :
    (db.alignedYields global).Nodup :=
  List.Nodup.of_map _ nodup_distinctOn

theorem nodup_windowYields {db : AnalyticsDatabase} {windowStart windowEnd : ℤ} :
    (db.windowYields windowStart windowEnd).Nodup :=
  List.Nodup.of_map _ nodup_distinctOn

/-! ## What a call has to respect -/

/-- The scope of the interval carries the name of the window. -/
def SavingsYieldInterval.Named (row : SavingsYieldInterval) (windowStart windowEnd : ℤ) : Prop :=
  scopeMatches row.coverageScope (alignedScopeSuffix windowStart windowEnd)

instance (row : SavingsYieldInterval) (windowStart windowEnd : ℤ) :
    Decidable (row.Named windowStart windowEnd) :=
  inferInstanceAs (Decidable (scopeMatches _ _))

/-- The interval is the newest of its chain under the name of the window. -/
def AnalyticsDatabase.NewestNamed (db : AnalyticsDatabase) (windowStart windowEnd : ℤ)
    (row : SavingsYieldInterval) : Prop :=
  row.Named windowStart windowEnd ∧ ∀ other ∈ db.yields.values, other.chainId = row.chainId →
    other.Named windowStart windowEnd → other.createdAt ≤ row.createdAt

instance (db : AnalyticsDatabase) (windowStart windowEnd : ℤ) (row : SavingsYieldInterval) :
    Decidable (db.NewestNamed windowStart windowEnd row) :=
  inferInstanceAs (Decidable (_ ∧ _))

theorem alignedYields_eq (db : AnalyticsDatabase) (global : GlobalSavingsYield) :
    db.alignedYields global = distinctOn (·.2.chainId) newestFirst
      (db.yields.rows.filter fun row => row.2.Named global.windowStart global.windowEnd) := rfl

/-- An interval under the name of the window makes the reader return one. -/
theorem alignedYields_ne_nil {db : AnalyticsDatabase} {global : GlobalSavingsYield}
    {row : SavingsYieldInterval} (stored : row ∈ db.yields.values)
    (named : row.Named global.windowStart global.windowEnd) : db.alignedYields global ≠ [] := by
  obtain ⟨entry, inside, rfl⟩ := List.mem_map.mp stored
  have kept : entry ∈ db.yields.rows.filter fun row =>
      row.2.Named global.windowStart global.windowEnd :=
    List.mem_filter.mpr ⟨inside, decide_eq_true named⟩
  obtain ⟨returned, mem, -⟩ :=
    @exists_mem_distinctOn _ _ _ (fun row => row.2.chainId) newestFirst _ entry kept
  exact List.ne_nil_of_mem mem

/-- The calculation arrives at an interval that is not stored yet. -/
def CalculateSavingsYieldOptions.StoresNew (options : CalculateSavingsYieldOptions)
    (db : AnalyticsDatabase) : Prop :=
  ∃ savingsYieldId coverage row db', calculateSavingsYieldForRange options db
      = .ok (.candidate savingsYieldId coverage row, db') ∧
    db.yields.idOf SavingsYieldInterval.key row.key = none

/-- **What a call has to respect**, in the database that it meets.

* A new interval that carries the name of the latest sum's window belongs to a chain that
  the sum does not include; and it is not the first under that name, unless the sum is zero.
* An interval that a reconciliation finds invalid is not the newest of an included chain
  under the name of the latest sum's window.
* Of a sum that becomes the latest, and for whose window there is an interval by name, every
  verified interval is the newest of its chain under that name. -/
def KeepsHistory (db : AnalyticsDatabase) : AnalyticsCall → Prop
  | .calculateSavingsYieldForRange options =>
      ∀ global, db.latestGlobalYield = some global → options.StoresNew db →
        scopeMatches options.scope
          (alignedScopeSuffix global.2.windowStart global.2.windowEnd) →
        options.adapter.chainId ∉ global.2.includedChainIds ∧
          ((∃ row ∈ db.yields.values, row.Named global.2.windowStart global.2.windowEnd) ∨
            global.2.nativeYpo = 0)
  | .reconcileSavingsYield chainId savingsYieldId =>
      ∀ global, db.latestGlobalYield = some global →
        ∀ row, db.savings.selectInterval chainId savingsYieldId = some row →
        ∀ reconciliation, reconcileRow row
            (readRateEvents db.index chainId row.fromBlock row.toBlock) = .ok reconciliation →
        reconciliation.status = .invalid →
        ∀ interval, db.yields.find? row.id = some interval →
        db.NewestNamed global.2.windowStart global.2.windowEnd interval →
          interval.chainId ∉ global.2.includedChainIds
  | .createGlobalSavingsYield windowStart windowEnd =>
      windowStart < windowEnd →
        (∀ other ∈ db.globalYields.values, other.windowEnd ≤ windowEnd) →
        (∃ row ∈ db.yields.values, row.Named windowStart windowEnd) →
        ∀ row ∈ db.windowYields windowStart windowEnd, row.2.reconciliationStatus = .verified →
          db.NewestNamed windowStart windowEnd row.2
  | _ => True

/-! ## The order of creation -/

/-- Intervals, and sums, are created at different times, all of them past. -/
structure AnalyticsDatabase.CreatedBefore (db : AnalyticsDatabase) (now : ℤ) : Prop where
  yields : db.yields.Stamped SavingsYieldInterval.createdAt now
  globalYields : db.globalYields.Stamped GlobalSavingsYield.createdAt now

/-- The row that an upsert of a sum writes. -/
theorem find?_upsert_globalYield (aggregate : SavingsYieldAggregate)
    (windowStart windowEnd createdAt : ℤ) (table : SerialTable GlobalSavingsYield) :
    let stored := table.upsert GlobalSavingsYield.key mergeGlobalYield
      (aggregate.globalYield windowStart windowEnd createdAt)
    ∃ written, stored.2.find? stored.1 = some written ∧ written.windowStart = windowStart ∧
      written.windowEnd = windowEnd ∧ written.nativeYpo = aggregate.nativeYpo ∧
      written.includedChainIds = aggregate.includedChainIds ∧ written.createdAt = createdAt := by
  intro stored
  obtain ⟨written, found, new | ⟨old, -, -, merged⟩⟩ := find?_upsert_self GlobalSavingsYield.key
    mergeGlobalYield table (aggregate.globalYield windowStart windowEnd createdAt)
  · subst new
    exact ⟨_, found, rfl, rfl, rfl, rfl, rfl⟩
  · subst merged
    exact ⟨_, found, rfl, rfl, rfl, rfl, rfl⟩

theorem AnalyticsDatabase.CreatedBefore.effect {db db' : AnalyticsDatabase} {call : AnalyticsCall}
    (effect : Effect db call db') (created : db.CreatedBefore db.clock) :
    db'.CreatedBefore (db.clock + 1) := by
  have later := lt_add_one db.clock
  cases effect with
  | interval options start finish accruedInterest nativeYpo =>
      refine ⟨?_, created.globalYields.mono later.le⟩
      rcases insertOrSelect_spec SavingsYieldInterval.key db.yields
          (options.interval start finish accruedInterest nativeYpo db.clock) with
        ⟨-, result⟩ | ⟨id, stored, -, -, -, result⟩
      · simp only [result]
        exact created.yields.insert rfl later
      · simp only [result]
        exact ⟨(created.yields.mono later.le).before, created.yields.apart⟩
  | reconciled chainId savingsYieldId row reconciliation =>
      refine ⟨?_, created.globalYields.mono later.le⟩
      show (db.yields.update fun i interval => if i = row.id then
        { interval with reconciliationStatus := reconciliation.status } else interval).Stamped _ _
      refine (created.yields.mono later.le).update fun id interval => ?_
      split <;> rfl
  | globalYield windowStart windowEnd =>
      refine ⟨created.yields.mono later.le, ?_⟩
      obtain ⟨written, found, -, -, -, -, createdAt⟩ := find?_upsert_globalYield
        (db.yieldAggregate windowStart windowEnd) windowStart windowEnd db.clock db.globalYields
      exact created.globalYields.of_mem_rows createdAt later fun row mem =>
        ((mem_rows_upsert found).mp mem).imp_right And.left
  | _ => exact ⟨created.yields.mono later.le, created.globalYields.mono later.le⟩

/-! ## One call -/

/-- An interval that is the newest under the name of the window is returned with its sum. -/
theorem AnalyticsDatabase.CreatedBefore.mem_alignedYields {db : AnalyticsDatabase} {now : ℤ}
    (created : db.CreatedBefore now) {global : GlobalSavingsYield} {row : ℕ × SavingsYieldInterval}
    (stored : row ∈ db.yields.rows)
    (newest : db.NewestNamed global.windowStart global.windowEnd row.2) :
    row ∈ db.alignedYields global := by
  refine mem_distinctOn_of_lt (ordersBy_desc fun row : ℕ × SavingsYieldInterval => row.2.createdAt)
    (List.mem_filter.mpr ⟨stored, decide_eq_true newest.1⟩) ?_
  intro other mem sameChain differs
  obtain ⟨inside, named⟩ := List.mem_filter.mp mem
  have le := newest.2 other.2 (List.mem_map_of_mem inside) sameChain (of_decide_eq_true named)
  have ne : other.2.createdAt ≠ row.2.createdAt := fun same =>
    differs (created.yields.apart other inside row stored same)
  show -row.2.createdAt < -other.2.createdAt
  omega

/-- An interval that is returned is the newest under the name of the window. -/
theorem newestNamed_of_mem_alignedYields {db : AnalyticsDatabase} {global : GlobalSavingsYield}
    {row : ℕ × SavingsYieldInterval} (mem : row ∈ db.alignedYields global) :
    db.NewestNamed global.windowStart global.windowEnd row.2 := by
  obtain ⟨-, named⟩ := List.mem_filter.mp (mem_of_mem_distinctOn mem)
  refine ⟨of_decide_eq_true named, ?_⟩
  intro other hother sameChain otherNamed
  obtain ⟨entry, inside, rfl⟩ := List.mem_map.mp hother
  have first := order_le_of_first (ordersBy_desc fun row : ℕ × SavingsYieldInterval =>
    row.2.createdAt) (mem_distinctOn.mp mem) (List.mem_filter.mpr
      ⟨List.mem_filter.mpr ⟨inside, decide_eq_true otherNamed⟩, decide_eq_true sameChain⟩)
  omega

/-- A calculation leaves the intervals alone, or adds one that was not there. -/
theorem calculateSavingsYieldForRange_yields {options : CalculateSavingsYieldOptions}
    {db db' : AnalyticsDatabase} {answer : SavingsYieldResult}
    (result : calculateSavingsYieldForRange options db = .ok (answer, db')) :
    db'.globalYields = db.globalYields ∧
      (db'.yields.rows = db.yields.rows ∨
        options.StoresNew db ∧ ∃ row : SavingsYieldInterval, row.chainId = options.adapter.chainId ∧
          row.coverageScope = options.scope ∧
          db'.yields.rows = db.yields.rows ++ [(db.yields.next, row)]) := by
  have whole := result
  unfold calculateSavingsYieldForRange at result
  split at result
  · cases result
  · obtain ⟨coverage, -, result⟩ := bind_eq_ok.mp result
    split at result
    · cases result
      exact ⟨rfl, .inl rfl⟩
    · split at result
      · rename_i start finish starts ends
        split at result
        · cases result
          exact ⟨rfl, .inl rfl⟩
        · obtain ⟨accruedInterest, -, result⟩ := bind_eq_ok.mp result
          obtain ⟨nativeYpo, -, result⟩ := bind_eq_ok.mp result
          obtain ⟨⟨savingsYieldId, stored⟩, inserted, result⟩ := bind_eq_ok.mp result
          cases result
          obtain rfl := insertYield_eq_ok inserted
          refine ⟨rfl, ?_⟩
          rcases insertOrSelect_spec SavingsYieldInterval.key db.yields
              (options.interval start finish accruedInterest nativeYpo db.clock) with
            ⟨absent, insertion⟩ | ⟨id, stored, -, -, -, insertion⟩
          · refine .inr ⟨⟨savingsYieldId, coverage, _, _, whole, absent⟩, ?_⟩
            simp only [insertion]
            exact ⟨_, rfl, rfl, rfl⟩
          · simp only [insertion]
            exact .inl rfl
      · cases result
        exact ⟨rfl, .inl rfl⟩

/-- A calculation keeps the history consistent. -/
theorem consistent_calculate {options : CalculateSavingsYieldOptions}
    {db db' : AnalyticsDatabase} {answer : SavingsYieldResult}
    (keeps : KeepsHistory db (.calculateSavingsYieldForRange options))
    (consistent : (readLatestSavingsHistory db).Consistent)
    (result : calculateSavingsYieldForRange options db = .ok (answer, db')) :
    (readLatestSavingsHistory db').Consistent := by
  rw [readLatestSavingsHistory_consistent_iff] at consistent ⊢
  obtain ⟨globalYields, yields⟩ := calculateSavingsYieldForRange_yields result
  have latest : db'.latestGlobalYield = db.latestGlobalYield := by
    rw [AnalyticsDatabase.latestGlobalYield, globalYields, AnalyticsDatabase.latestGlobalYield]
  intro global selected some
  rw [latest] at selected
  have unchanged (same : db'.alignedYields global.2 = db.alignedYields global.2) :
      global.2.SumOf (db'.alignedYields global.2) := by
    rw [same] at some ⊢
    exact consistent global selected some
  rcases yields with same | ⟨storesNew, row, chain, scope, appended⟩
  · refine unchanged ?_
    rw [AnalyticsDatabase.alignedYields, same, AnalyticsDatabase.alignedYields]
  · by_cases named : row.Named global.2.windowStart global.2.windowEnd
    · -- the new interval is returned, for a chain that the sum does not include
      obtain ⟨excluded, others⟩ := keeps global selected storesNew (by rw [← scope]; exact named)
      have filtered : db'.alignedYields global.2 = distinctOn (·.2.chainId) newestFirst
          ((db.yields.rows.filter fun row =>
            row.2.Named global.2.windowStart global.2.windowEnd) ++ [(db.yields.next, row)]) := by
        have kept : [(db.yields.next, row)].filter (fun row : ℕ × SavingsYieldInterval =>
            row.2.Named global.2.windowStart global.2.windowEnd) = [(db.yields.next, row)] :=
          List.filter_cons_of_pos (decide_eq_true named)
        rw [alignedYields_eq, appended, List.filter_append, kept]
      have perm : (global.2.includedRows (db'.alignedYields global.2)).Perm
          (global.2.includedRows (db.alignedYields global.2)) := by
        refine (List.perm_ext_iff_of_nodup (nodup_alignedYields.filter _)
          (nodup_alignedYields.filter _)).mpr fun other => ?_
        rw [List.mem_filter, List.mem_filter, and_congr_left_iff, filtered]
        intro included
        refine mem_distinctOn_concat_of_ne fun same => excluded ?_
        rw [← chain, ← same]
        exact of_decide_eq_true included
      by_cases before : db.alignedYields global.2 = []
      · -- the first interval under the name: the sum is over none
        have zero : global.2.nativeYpo = 0 := by
          refine others.resolve_left ?_
          rintro ⟨other, mem, otherNamed⟩
          exact alignedYields_ne_nil mem otherNamed before
        rw [before] at perm
        have nothing := perm.eq_nil
        exact ⟨by rw [nothing, zero]; rfl, by rw [nothing]; simp⟩
      · exact (consistent global selected before).of_perm perm
    · refine unchanged ?_
      have dropped : [(db.yields.next, row)].filter (fun row : ℕ × SavingsYieldInterval =>
          row.2.Named global.2.windowStart global.2.windowEnd) = [] := by
        rw [List.filter_cons_of_neg (by simpa using named), List.filter_nil]
      rw [alignedYields_eq, appended, List.filter_append, dropped, List.append_nil,
        alignedYields_eq]

/-- A verdict keeps the history consistent, unless it is that an interval of the sum is
invalid. -/
theorem consistent_setStatus {db : AnalyticsDatabase} {id : ℕ} {status : ReconciliationStatus}
    (decided : status ≠ .candidate)
    (keeps : ∀ global, db.latestGlobalYield = some global → status = .invalid →
      ∀ interval, db.yields.find? id = some interval →
        db.NewestNamed global.2.windowStart global.2.windowEnd interval →
          interval.chainId ∉ global.2.includedChainIds)
    (consistent : (readLatestSavingsHistory db).Consistent) :
    (readLatestSavingsHistory (db.setStatus id status)).Consistent := by
  rw [readLatestSavingsHistory_consistent_iff] at consistent ⊢
  intro global selected shown
  set change : ℕ × SavingsYieldInterval → ℕ × SavingsYieldInterval := fun row =>
    (row.1, if row.1 = id then { row.2 with reconciliationStatus := status } else row.2)
    with hchange
  have chains (row : ℕ × SavingsYieldInterval) : (change row).2.chainId = row.2.chainId := by
    simp only [hchange]
    split <;> rfl
  have amounts (row : ℕ × SavingsYieldInterval) : (change row).2.nativeYpo = row.2.nativeYpo := by
    simp only [hchange]
    split <;> rfl
  have times (row : ℕ × SavingsYieldInterval) : (change row).2.createdAt = row.2.createdAt := by
    simp only [hchange]
    split <;> rfl
  have names (row : ℕ × SavingsYieldInterval) : (change row).2.Named global.2.windowStart
      global.2.windowEnd ↔ row.2.Named global.2.windowStart global.2.windowEnd := by
    simp only [hchange]
    split <;> rfl
  -- the reader selects the same intervals, some of them changed
  have aligned : (db.setStatus id status).alignedYields global.2
      = (db.alignedYields global.2).map change := by
    rw [alignedYields_eq, alignedYields_eq, ← distinctOn_map chains fun a b => by
      rw [newestFirst, times, times, newestFirst]]
    congr 1
    show (db.yields.rows.map change).filter _ = _
    rw [List.filter_map]
    simp only [Function.comp_def, names]
  have included : global.2.includedRows ((db.alignedYields global.2).map change)
      = (global.2.includedRows (db.alignedYields global.2)).map change := by
    rw [GlobalSavingsYield.includedRows, List.filter_map]
    simp only [Function.comp_def, chains]
    rfl
  rw [aligned] at shown ⊢
  have before := consistent global selected fun empty => shown (by rw [empty]; rfl)
  constructor
  · rw [included, List.map_map, before.total]
    exact congrArg List.sum (List.map_congr_left fun row _ => (amounts row).symm)
  · intro row mem
    rw [included] at mem
    obtain ⟨old, hold, rfl⟩ := List.mem_map.mp mem
    by_cases written : old.1 = id
    · have same : (change old).2.reconciliationStatus = status := by simp [hchange, written]
      rw [same]
      cases status with
      | verified => rfl
      | candidate => exact absurd rfl decided
      | invalid =>
          obtain ⟨returned, inside⟩ := List.mem_filter.mp hold
          have stored : db.yields.find? id = Option.some old.2 := by
            rw [← written, find?_eq_some_iff]
            exact (List.mem_filter.mp (mem_of_mem_distinctOn returned)).1
          exact absurd (of_decide_eq_true inside) (keeps global selected rfl old.2 stored
            (newestNamed_of_mem_alignedYields returned))
    · have same : change old = old := by simp [hchange, written]
      rw [same]
      exact before.verified old hold

/-- The yield of a window is the sum over its verified intervals, whose chains it includes. -/
theorem yieldAggregate_eq (db : AnalyticsDatabase) (windowStart windowEnd : ℤ) :
    let verified := (db.windowYields windowStart windowEnd).filter
      (·.2.reconciliationStatus = .verified)
    (db.yieldAggregate windowStart windowEnd).nativeYpo = (verified.map (·.2.nativeYpo)).sum ∧
      (db.yieldAggregate windowStart windowEnd).includedChainIds
        = verified.map (·.2.chainId) := by
  simp only [AnalyticsDatabase.yieldAggregate, aggregateSavingsYieldComponents, List.filter_map,
    List.map_map]
  exact ⟨rfl, rfl⟩

/-- A stored sum is not written under the number of a sum of another window. -/
theorem number_ne_of_storeGlobalYield {db : AnalyticsDatabase} {windowStart windowEnd : ℤ}
    {other : ℕ × GlobalSavingsYield} (mem : other ∈ db.globalYields.rows)
    (differs : other.2.windowEnd ≠ windowEnd) :
    other.1 ≠ (storeGlobalYield (db.yieldAggregate windowStart windowEnd) windowStart windowEnd
      db).1 := by
  intro same
  have conflict := find?_eq_some_iff.mpr mem
  rw [same] at conflict
  rcases upsert_spec GlobalSavingsYield.key mergeGlobalYield db.globalYields
    ((db.yieldAggregate windowStart windowEnd).globalYield windowStart windowEnd
      db.clock) with ⟨-, result⟩ | ⟨id, old, -, foundOld, sameKey, result⟩
  · have fresh := lt_next_of_find? conflict
    have drawn : (storeGlobalYield (db.yieldAggregate windowStart windowEnd) windowStart
      windowEnd db).1 = db.globalYields.next := congrArg Prod.fst result
    omega
  · have number : (storeGlobalYield (db.yieldAggregate windowStart windowEnd) windowStart
      windowEnd db).1 = id := congrArg Prod.fst result
    rw [number, foundOld] at conflict
    obtain rfl := Option.some.inj conflict
    exact differs (congrArg (·.2.1) sameKey)

/-- The latest sum after a sum has been stored: that one, unless there is one of a later
window. -/
theorem latestGlobalYield_store {db : AnalyticsDatabase} (created : db.CreatedBefore db.clock)
    (windowStart windowEnd : ℤ) :
    let stored := storeGlobalYield (db.yieldAggregate windowStart windowEnd) windowStart
      windowEnd db
    ∃ written : GlobalSavingsYield, written.windowStart = windowStart ∧
      written.windowEnd = windowEnd ∧
      written.nativeYpo = (db.yieldAggregate windowStart windowEnd).nativeYpo ∧
      written.includedChainIds = (db.yieldAggregate windowStart windowEnd).includedChainIds ∧
      ((∀ other ∈ db.globalYields.values, other.windowEnd ≤ windowEnd) →
        stored.2.latestGlobalYield = some (stored.1, written)) ∧
      ((∃ other ∈ db.globalYields.values, windowEnd < other.windowEnd) →
        stored.2.latestGlobalYield = db.latestGlobalYield) := by
  intro stored
  obtain ⟨written, found, starts, ends, amount, included, createdAt⟩ := find?_upsert_globalYield
    (db.yieldAggregate windowStart windowEnd) windowStart windowEnd db.clock db.globalYields
  have rows {other : ℕ × GlobalSavingsYield} : other ∈ stored.2.globalYields.rows
      ↔ other = (stored.1, written) ∨ other ∈ db.globalYields.rows ∧ other.1 ≠ stored.1 :=
    mem_rows_upsert found
  have orders := ordersBy_lexCompare_desc
    (fun row : ℕ × GlobalSavingsYield => row.2.windowEnd) fun row => row.2.createdAt
  refine ⟨written, starts, ends, amount, included, ?_, ?_⟩
  · intro latest
    refine first_eq_some_of_lt orders (rows.mpr (.inl rfl)) ?_
    intro other mem differs
    obtain ⟨old, -⟩ := (rows.mp mem).resolve_left differs
    have le := latest other.2 (List.mem_map_of_mem old)
    have earlier := created.globalYields.before other old
    rw [Prod.Lex.toLex_lt_toLex]
    show -written.windowEnd < -other.2.windowEnd ∨ -written.windowEnd = -other.2.windowEnd ∧
      -written.createdAt < -other.2.createdAt
    omega
  · rintro ⟨later, mem, lt⟩
    obtain ⟨entry, inside, rfl⟩ := List.mem_map.mp mem
    cases selected : db.latestGlobalYield with
    | none =>
        rw [first_eq_none_iff.mp selected] at inside
        cases inside
    | some latest =>
        have hlatest := mem_of_first selected
        -- the latest sum is of a later window, so it has not been written
        have le := order_le_of_first orders selected inside
        rw [Prod.Lex.toLex_le_toLex] at le
        replace le : -latest.2.windowEnd < -entry.2.windowEnd ∨
          -latest.2.windowEnd = -entry.2.windowEnd ∧ -latest.2.createdAt ≤ -entry.2.createdAt := le
        have kept : latest.1 ≠ stored.1 := number_ne_of_storeGlobalYield hlatest (by omega)
        refine first_eq_some_of_lt orders (rows.mpr (.inr ⟨hlatest, kept⟩)) ?_
        intro other hother differs
        rcases rows.mp hother with rfl | ⟨old, -⟩
        · rw [Prod.Lex.toLex_lt_toLex]
          show -latest.2.windowEnd < -written.windowEnd ∨ _
          omega
        · refine lt_of_le_of_ne (order_le_of_first orders selected old) fun same => differs ?_
          refine (created.globalYields.apart latest hlatest other old ?_).symm
          have := congrArg (fun pair => (ofLex pair).2) same
          exact neg_inj.mp this

/-- A sum that is stored keeps the history consistent. -/
theorem consistent_storeGlobalYield {db : AnalyticsDatabase} (created : db.CreatedBefore db.clock)
    {windowStart windowEnd : ℤ} (ordered : windowStart < windowEnd)
    (keeps : KeepsHistory db (.createGlobalSavingsYield windowStart windowEnd))
    (consistent : (readLatestSavingsHistory db).Consistent) :
    (readLatestSavingsHistory (storeGlobalYield (db.yieldAggregate windowStart windowEnd)
      windowStart windowEnd db).2).Consistent := by
  rw [readLatestSavingsHistory_consistent_iff] at consistent ⊢
  obtain ⟨written, starts, ends, amount, included, becomes, remains⟩ :=
    latestGlobalYield_store created windowStart windowEnd
  intro global selected some
  by_cases latest : ∀ other ∈ db.globalYields.values, other.windowEnd ≤ windowEnd
  · rw [becomes latest] at selected
    obtain rfl := Option.some.inj selected
    obtain ⟨row, mem⟩ := List.exists_mem_of_ne_nil _ some
    have named := (newestNamed_of_mem_alignedYields mem).1
    rw [starts, ends] at named
    have newest := keeps ordered latest ⟨row.2, List.mem_map_of_mem
      (List.mem_filter.mp (mem_of_mem_distinctOn mem)).1, named⟩
    obtain ⟨total, chains⟩ := yieldAggregate_eq db windowStart windowEnd
    -- the verified intervals of the window are those that are found again
    have again {row : ℕ × SavingsYieldInterval} (mem : row ∈ db.windowYields windowStart windowEnd)
        (verified : row.2.reconciliationStatus = .verified) : row ∈ db.alignedYields written :=
      created.mem_alignedYields (List.mem_filter.mp (mem_of_mem_distinctOn mem)).1
        (by rw [starts, ends]; exact newest row mem verified)
    have perm : (written.includedRows (db.alignedYields written)).Perm
        ((db.windowYields windowStart windowEnd).filter
          (·.2.reconciliationStatus = .verified)) := by
      refine (List.perm_ext_iff_of_nodup (nodup_alignedYields.filter _)
        (nodup_windowYields.filter _)).mpr fun other => ?_
      rw [List.mem_filter, List.mem_filter, included, chains, decide_eq_true_iff,
        decide_eq_true_iff]
      constructor
      · rintro ⟨returned, chain⟩
        obtain ⟨row, hrow, same⟩ := List.mem_map.mp chain
        obtain ⟨hrow, verified⟩ := List.mem_filter.mp hrow
        obtain rfl := eq_of_mem_distinctOn (again hrow (of_decide_eq_true verified)) returned same
        exact ⟨hrow, of_decide_eq_true verified⟩
      · rintro ⟨hother, verified⟩
        exact ⟨again hother verified, List.mem_map_of_mem
          (List.mem_filter.mpr ⟨hother, decide_eq_true verified⟩)⟩
    show written.SumOf (db.alignedYields written)
    exact ⟨by rw [amount, total, (perm.map _).sum_eq], fun other hother =>
      of_decide_eq_true (List.mem_filter.mp (perm.mem_iff.mp hother)).2⟩
  · push Not at latest
    rw [remains latest] at selected
    exact consistent global selected some

/-! ## Every run -/

/-- Some time passes, and the call respects the history that it meets. -/
def RespectsHistory (input : TimedCall) (db : AnalyticsDatabase) : Prop :=
  KeepsHistory (db.wait input.wait) input.call

theorem Effect.clock_eq {db db' : AnalyticsDatabase} {call : AnalyticsCall}
    (effect : Effect db call db') : db'.clock = db.clock := by
  cases effect <;> rfl

/-- One call keeps the history consistent. -/
theorem consistent_step {viem : Viem} {keccak256 : String → String} {input : TimedCall}
    {db : AnalyticsDatabase} (respects : RespectsHistory input db)
    (created : db.CreatedBefore (db.clock + 1))
    (consistent : (readLatestSavingsHistory db).Consistent) :
    let db' := (analyticsStep viem keccak256 input db).1
    db'.CreatedBefore (db'.clock + 1) ∧ (readLatestSavingsHistory db').Consistent := by
  have waited : (db.wait input.wait).CreatedBefore (db.wait input.wait).clock := by
    have le : db.clock + 1 ≤ db.clock + input.wait + 1 := by omega
    exact ⟨created.yields.mono le, created.globalYields.mono le⟩
  have before : (readLatestSavingsHistory (db.wait input.wait)).Consistent :=
    (readLatestSavingsHistory_consistent_congr rfl rfl).mpr consistent
  obtain ⟨wait, call⟩ := input
  unfold analyticsStep
  split
  · rename_i db' performed
    have effect := perform_effect performed
    refine ⟨by rw [effect.clock_eq]; exact .effect effect waited, ?_⟩
    cases effect with
    | interval options =>
        obtain ⟨⟨answer, stored⟩, calculated, same⟩ := map_eq_ok.mp performed
        obtain rfl : stored = _ := same
        exact consistent_calculate respects before calculated
    | reconciled chainId savingsYieldId row reconciliation selected result decided =>
        refine consistent_setStatus decided ?_ before
        intro global latest
        exact respects global latest row selected reconciliation result
    | globalYield windowStart windowEnd ordered =>
        exact consistent_storeGlobalYield waited ordered respects before
    | _ => exact (readLatestSavingsHistory_consistent_congr rfl rfl).mpr before
  · exact ⟨⟨waited.yields.mono (lt_add_one _).le, waited.globalYields.mono (lt_add_one _).le⟩,
      before⟩

/-- **A history that every call respects is consistent.** -/
theorem history_consistent (viem : Viem) (keccak256 : String → String) (calls : List TimedCall)
    (respects : Machine.Along (analyticsStep viem keccak256) RespectsHistory calls .empty) :
    (readLatestSavingsHistory (analyticsRun viem keccak256 calls .empty)).Consistent := by
  refine (Machine.run_invariant_along (fun db _ => db.CreatedBefore (db.clock + 1) ∧
    (readLatestSavingsHistory db).Consistent) ?_ calls respects ?_).2
  · intro input db _ allowed holds
    exact consistent_step allowed holds.1 holds.2
  · refine ⟨⟨.empty, .empty⟩, ?_⟩
    intro global found
    cases found

/-- Before there is a sum, nothing but a sum can fail to respect the history. -/
theorem respects_before_sums (viem : Viem) (keccak256 : String → String) :
    ∀ {calls : List TimedCall} {db : AnalyticsDatabase}, db.latestGlobalYield = none →
      (∀ input ∈ calls, ∀ windowStart windowEnd,
        input.call ≠ .createGlobalSavingsYield windowStart windowEnd) →
      Machine.Along (analyticsStep viem keccak256) RespectsHistory calls db := by
  intro calls
  induction calls with
  | nil => intro db _ _; exact trivial
  | cons input calls ih =>
      intro db unsummed others
      obtain ⟨wait, call⟩ := input
      have unsummedHere : (db.wait wait).latestGlobalYield = none := unsummed
      refine ⟨?_, ih ?_ fun input mem => others input (List.mem_cons_of_mem _ mem)⟩
      · cases call with
        | createGlobalSavingsYield windowStart windowEnd =>
            exact absurd rfl (others _ List.mem_cons_self windowStart windowEnd)
        | calculateSavingsYieldForRange options =>
            intro global selected
            cases unsummedHere.symm.trans selected
        | reconcileSavingsYield chainId savingsYieldId =>
            intro global selected
            cases unsummedHere.symm.trans selected
        | _ => exact trivial
      · unfold analyticsStep
        split
        · rename_i db' performed
          cases perform_effect performed with
          | globalYield windowStart windowEnd =>
              exact absurd rfl (others _ List.mem_cons_self windowStart windowEnd)
          | _ => exact unsummedHere
        · exact unsummedHere

/-- A vault that grows from block 10. -/
def growingState (totalAssets : ℕ) : SavingsStateRead :=
  { sampleState totalAssets 100 10 with susdpRate := 10 ^ 25 }

/-- Ten blocks without events. -/
def quietChunk : Chunk where
  chainId := 1
  scope := "parallel-savings-ethereum-10-20-v1"
  runId := 0
  range := ⟨10, 20⟩
  logs := []
  blocks := []
  anchor := none

/-- The interval of a quiet window is calculated and verified. -/
def quietCalls : List TimedCall :=
  [⟨0, .syncParallelAssetRegistry⟩, ⟨0, .persistChunk none quietChunk blankCounters⟩,
    ⟨0, sampleCapture (growingState 100) 10⟩, ⟨0, sampleCapture (growingState 110) 20⟩,
    ⟨0, .calculateSavingsYieldForRange ⟨ethereumAdapter, quietChunk.scope, 10, 20, none⟩⟩,
    ⟨0, .reconcileSavingsYield 1 none⟩]

/-- The sum at the window. -/
def quietSum : TimedCall := ⟨0, .createGlobalSavingsYield 10000 20000⟩

/-- The yield of 10 is verified, summed and returned with its interval. -/
theorem history_consistent_quiet :
    (readLatestSavingsHistory (analyticsRun ⟨fun _ _ _ => none, id⟩ id (quietCalls ++ [quietSum])
      .empty)).Consistent := by
  refine history_consistent _ id _ ((Machine.along_append quietCalls [quietSum] _).mpr
    ⟨respects_before_sums _ id rfl ?_, ?_, trivial⟩)
  · simp [quietCalls, sampleCapture]
  · intro _ _ _
    decide +kernel

/-- Afterwards the interval is calculated in another version. -/
def recalculation : TimedCall :=
  ⟨0, .calculateSavingsYieldForRange
    ⟨ethereumAdapter, quietChunk.scope, 10, 20, some "parallel-savings-native-ypo-v2"⟩⟩

/-- The history now returns the new interval, which nothing has verified, with the old sum. -/
theorem history_fails_recalculated :
    ¬ (readLatestSavingsHistory (analyticsRun ⟨fun _ _ _ => none, id⟩ id
      (quietCalls ++ [quietSum, recalculation]) .empty)).Consistent := by
  have returned : (fun history : SavingsHistory => history.global.map fun global =>
      (global.2.includedRows history.chains).map (·.2.reconciliationStatus))
        (readLatestSavingsHistory (analyticsRun ⟨fun _ _ _ => none, id⟩ id
          (quietCalls ++ [quietSum, recalculation]) .empty)) = some [.candidate] := by
    decide +kernel
  generalize readLatestSavingsHistory (analyticsRun ⟨fun _ _ _ => none, id⟩ id
    (quietCalls ++ [quietSum, recalculation]) .empty) = history at returned ⊢
  intro consistent
  obtain ⟨global, found, statuses⟩ := Option.map_eq_some_iff.mp returned
  obtain ⟨row, others, rows, unverified, -⟩ := List.map_eq_cons_iff.mp statuses
  have verified := (consistent global found).verified row (by rw [rows]; exact List.mem_cons_self)
  rw [unverified] at verified
  cases verified

end UsdpIndexer
