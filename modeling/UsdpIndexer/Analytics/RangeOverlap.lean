import UsdpIndexer.Analytics.RangeAnalytics
import UsdpIndexer.Library.Overlap

/-!
# Ranges that share an end

A range of `analytics/range-analytics.ts` is closed at both ends.  Two ranges that follow each
other therefore both hold what happened at the moment where they meet, and their figures add up
to those of the whole range and of that moment (`ranges_overlap`).

Which histories a request finds does not depend on its range, so that an asset is available in
the whole exactly where it is in both parts.
-/

namespace UsdpIndexer

open FailingFold

/-! ## The relation between the figures -/

/-- The activity of a whole range, of the moment that its parts share, and of the parts. -/
structure RangeActivity.Overlapping (whole shared left right : RangeActivity) : Prop where
  transferVolume : whole.transferVolume + shared.transferVolume
    = left.transferVolume + right.transferVolume
  mintedVolume : whole.mintedVolume + shared.mintedVolume = left.mintedVolume + right.mintedVolume
  burnedVolume : whole.burnedVolume + shared.burnedVolume = left.burnedVolume + right.burnedVolume
  transferCount : whole.transferCount + shared.transferCount
    = left.transferCount + right.transferCount
  newHolders : whole.newHolders + shared.newHolders = left.newHolders + right.newHolders
  uniqueSenders : DistinctOverlap whole.uniqueSenders shared.uniqueSenders left.uniqueSenders
    right.uniqueSenders
  uniqueReceivers : DistinctOverlap whole.uniqueReceivers shared.uniqueReceivers
    left.uniqueReceivers right.uniqueReceivers
  uniqueParticipants : DistinctOverlap whole.uniqueParticipants shared.uniqueParticipants
    left.uniqueParticipants right.uniqueParticipants

/-- The flows of two ranges that overlap: what the whole and the shared part have amounts to what
the two have. -/
structure SavingsFlows.Overlapping (whole shared left right : SavingsFlows) : Prop where
  depositedAssets : whole.depositedAssets + shared.depositedAssets
    = left.depositedAssets + right.depositedAssets
  withdrawnAssets : whole.withdrawnAssets + shared.withdrawnAssets
    = left.withdrawnAssets + right.withdrawnAssets
  netFlow : whole.netFlow + shared.netFlow = left.netFlow + right.netFlow
  depositCount : whole.depositCount + shared.depositCount = left.depositCount + right.depositCount
  withdrawCount : whole.withdrawCount + shared.withdrawCount
    = left.withdrawCount + right.withdrawCount
  uniqueDepositors : DistinctOverlap whole.uniqueDepositors shared.uniqueDepositors
    left.uniqueDepositors right.uniqueDepositors
  uniqueWithdrawers : DistinctOverlap whole.uniqueWithdrawers shared.uniqueWithdrawers
    left.uniqueWithdrawers right.uniqueWithdrawers

theorem overlapping_transferActivity {whole shared left right : List RangeTransfer}
    (parts : Overlap whole shared left right)
    {wholeHolders sharedHolders leftHolders rightHolders : ℕ}
    (holders : wholeHolders + sharedHolders = leftHolders + rightHolders) :
    (transferActivity whole wholeHolders).Overlapping (transferActivity shared sharedHolders)
      (transferActivity left leftHolders) (transferActivity right rightHolders) where
  transferVolume := (parts.filter _).sum_map _
  mintedVolume := (parts.filter _).sum_map _
  burnedVolume := (parts.filter _).sum_map _
  transferCount := parts.countP _
  newHolders := holders
  uniqueSenders := ((parts.map _).filter isAccount).distinct
  uniqueReceivers := ((parts.map _).filter isAccount).distinct
  uniqueParticipants := (((parts.map _).append (parts.map _)).filter isAccount).distinct

/-! ## What two queries find -/

namespace RangeDatabase

variable {db : RangeDatabase} {chainId : ℕ} {start middle stop : ℤ}

theorem totalAssets_overlap {whole shared left right : List ProtocolEventRow}
    (parts : Overlap whole shared left right) {lefts rights : ℤ}
    (leftRun : totalAssets left = .ok lefts) (rightRun : totalAssets right = .ok rights) :
    ∃ wholes shareds, totalAssets whole = .ok wholes ∧ totalAssets shared = .ok shareds ∧
      wholes + shareds = lefts + rights := by
  obtain ⟨leftValues, leftReads, rfl⟩ := map_eq_ok.mp leftRun
  obtain ⟨rightValues, rightReads, rfl⟩ := map_eq_ok.mp rightRun
  obtain ⟨wholeValues, sharedValues, wholeReads, sharedReads, values⟩ :=
    parts.mapM leftReads rightReads
  refine ⟨_, _, map_eq_ok.mpr ⟨_, wholeReads, rfl⟩, map_eq_ok.mpr ⟨_, sharedReads, rfl⟩, ?_⟩
  have sums := values.sum_map id
  rwa [List.map_id, List.map_id, List.map_id, List.map_id] at sums

section Moments

variable (before : start ≤ middle) (after : middle ≤ stop)
include before after

/-- What a range holds, its parts hold; the moment between them is in both. -/
theorem overlap_within {α : Type} (time : α → ℤ) (l : List α) :
    Overlap (l.filter fun a => start ≤ time a ∧ time a ≤ stop)
      (l.filter fun a => middle ≤ time a ∧ time a ≤ middle)
      (l.filter fun a => start ≤ time a ∧ time a ≤ middle)
      (l.filter fun a => middle ≤ time a ∧ time a ≤ stop) := by
  have parts := overlap_filter (fun a => decide (start ≤ time a ∧ time a ≤ middle))
    (fun a => decide (middle ≤ time a ∧ time a ≤ stop)) l
  have whole : (fun a => decide (start ≤ time a ∧ time a ≤ middle)
      || decide (middle ≤ time a ∧ time a ≤ stop))
      = fun a => decide (start ≤ time a ∧ time a ≤ stop) := by
    funext a
    rw [← Bool.decide_or, decide_eq_decide]
    omega
  have shared : (fun a => decide (start ≤ time a ∧ time a ≤ middle)
      && decide (middle ≤ time a ∧ time a ≤ stop))
      = fun a => decide (middle ≤ time a ∧ time a ≤ middle) := by
    funext a
    rw [← Bool.decide_and, decide_eq_decide]
    omega
  rwa [whole, shared] at parts

theorem overlap_eventsBetween (wanted : ProtocolEventRow → Bool) :
    Overlap (db.eventsBetween chainId start stop wanted)
      (db.eventsBetween chainId middle middle wanted)
      (db.eventsBetween chainId start middle wanted)
      (db.eventsBetween chainId middle stop wanted) :=
  (overlap_within before after (fun entry : BlockRow × ProtocolEventRow => 1000 * entry.1.timestamp)
    (db.index.selectEvents chainId wanted)).map Prod.snd

theorem newHolders_overlap (assetId : ParallelAssetId) (sourceScope : String) :
    db.newHolders chainId assetId start stop sourceScope
        + db.newHolders chainId assetId middle middle sourceScope
      = db.newHolders chainId assetId start middle sourceScope
        + db.newHolders chainId assetId middle stop sourceScope := by
  let firstHeld (balance : HolderBalanceRow) : Option ℤ :=
    if balance.chainId = chainId ∧ balance.assetId = assetId ∧
        balance.sourceScope = sourceScope ∧ balance.historyComplete
      then balance.firstPositiveBlock.bind (db.blockTime chainId) else none
  have counted (first last : ℤ) : db.newHolders chainId assetId first last sourceScope
      = ((db.balances.filterMap firstHeld).filter
          fun time => first ≤ time ∧ time ≤ last).length := by
    rw [← List.countP_eq_length_filter, List.countP_filterMap]
    refine List.countP_congr fun balance _ => ?_
    by_cases chosen : balance.chainId = chainId ∧ balance.assetId = assetId ∧
        balance.sourceScope = sourceScope ∧ balance.historyComplete
    · simp only [firstHeld, if_pos chosen]
      cases balance.firstPositiveBlock.bind (db.blockTime chainId) with
      | none => simp
      | some time => simp [chosen]
    · simp only [firstHeld, if_neg chosen, Option.map_none, Option.getD_none, decide_eq_true_eq]
      refine iff_of_false (fun ⟨chain, asset, scope, complete, _⟩ => ?_) Bool.false_ne_true
      exact chosen ⟨chain, asset, scope, complete⟩
  rw [counted, counted, counted, counted]
  exact (overlap_within before after id _).length

theorem activityForRange_overlap {assetId : ParallelAssetId} {sourceScope : String}
    {left right : RangeActivity}
    (leftRun : db.activityForRange chainId assetId start middle sourceScope = .ok left)
    (rightRun : db.activityForRange chainId assetId middle stop sourceScope = .ok right) :
    ∃ whole shared, db.activityForRange chainId assetId start stop sourceScope = .ok whole ∧
      db.activityForRange chainId assetId middle middle sourceScope = .ok shared ∧
      whole.Overlapping shared left right := by
  obtain ⟨lefts, leftReads, rfl⟩ := map_eq_ok.mp leftRun
  obtain ⟨rights, rightReads, rfl⟩ := map_eq_ok.mp rightRun
  obtain ⟨wholes, shareds, wholeReads, sharedReads, parts⟩ :=
    (overlap_eventsBetween before after _).mapM leftReads rightReads
  exact ⟨_, _, map_eq_ok.mpr ⟨wholes, wholeReads, rfl⟩, map_eq_ok.mpr ⟨shareds, sharedReads, rfl⟩,
    overlapping_transferActivity parts (newHolders_overlap before after assetId sourceScope)⟩

theorem savingsFlowsForRange_overlap {left right : SavingsFlows}
    (leftRun : db.savingsFlowsForRange chainId start middle = .ok left)
    (rightRun : db.savingsFlowsForRange chainId middle stop = .ok right) :
    ∃ whole shared, db.savingsFlowsForRange chainId start stop = .ok whole ∧
      db.savingsFlowsForRange chainId middle middle = .ok shared ∧
      whole.Overlapping shared left right := by
  obtain ⟨leftDeposited, leftDeposits, leftRun⟩ := bind_eq_ok.mp leftRun
  obtain ⟨leftWithdrawn, leftWithdrawals, leftRun⟩ := bind_eq_ok.mp leftRun
  obtain rfl := Except.ok.inj leftRun
  obtain ⟨rightDeposited, rightDeposits, rightRun⟩ := bind_eq_ok.mp rightRun
  obtain ⟨rightWithdrawn, rightWithdrawals, rightRun⟩ := bind_eq_ok.mp rightRun
  obtain rfl := Except.ok.inj rightRun
  have deposits := @overlap_eventsBetween db chainId _ _ _ before after fun event =>
    event.contractRole = "susdp-savings" ∧ event.eventName = "Deposit"
  have withdrawals := @overlap_eventsBetween db chainId _ _ _ before after fun event =>
    event.contractRole = "susdp-savings" ∧ event.eventName = "Withdraw"
  obtain ⟨deposited, sharedDeposited, depositRun, sharedDepositRun, depositedSum⟩ :=
    totalAssets_overlap deposits leftDeposits rightDeposits
  obtain ⟨withdrawn, sharedWithdrawn, withdrawRun, sharedWithdrawRun, withdrawnSum⟩ :=
    totalAssets_overlap withdrawals leftWithdrawals rightWithdrawals
  refine ⟨_, _, bind_eq_ok.mpr ⟨_, depositRun, bind_eq_ok.mpr ⟨_, withdrawRun, rfl⟩⟩,
    bind_eq_ok.mpr ⟨_, sharedDepositRun, bind_eq_ok.mpr ⟨_, sharedWithdrawRun, rfl⟩⟩, ?_⟩
  exact {
    depositedAssets := depositedSum
    withdrawnAssets := withdrawnSum
    netFlow := by dsimp only; omega
    depositCount := deposits.length
    withdrawCount := withdrawals.length
    uniqueDepositors := (deposits.filterMap _).distinct
    uniqueWithdrawers := (withdrawals.filterMap _).distinct }

end Moments

end RangeDatabase

/-! ## What two requests are answered -/

/-- The request for a range of its own. -/
def AnalyticsRangeRequest.between (request : AnalyticsRangeRequest) (start stop : ℤ) :
    AnalyticsRangeRequest :=
  { request with preset := .custom, from? := some start, to? := some stop }

/-- The report of an asset of the whole range, and those of its parts. -/
structure AssetReport.Overlapping (db : RangeDatabase) (chainId : ℕ) (assetId : ParallelAssetId)
    (middle : ℤ) (whole left right : AssetReport) : Prop where
  available : whole.activity?.isSome ↔ left.activity?.isSome ∧ right.activity?.isSome
  activity : ∀ activity ∈ whole.activity?, ∀ leftActivity ∈ left.activity?,
    ∀ rightActivity ∈ right.activity?, ∃ sourceScope shared,
      db.activityForRange chainId assetId middle middle sourceScope = .ok shared ∧
        activity.Overlapping shared leftActivity rightActivity

/-- The report of a chain of the whole range, and those of its parts. -/
structure ChainReport.Overlapping (db : RangeDatabase) (middle : ℤ)
    (whole left right : ChainReport) : Prop where
  assets : ∀ assetId, ∀ report ∈ whole.asset assetId, ∀ leftReport ∈ left.asset assetId,
    ∀ rightReport ∈ right.asset assetId,
      report.Overlapping db whole.chainId assetId middle leftReport rightReport
  available : whole.flows.isSome ↔ left.flows.isSome ∧ right.flows.isSome
  flows : ∀ flows ∈ whole.flows, ∀ leftFlows ∈ left.flows, ∀ rightFlows ∈ right.flows,
    ∃ shared, db.savingsFlowsForRange whole.chainId middle middle = .ok shared ∧
      flows.Overlapping shared leftFlows rightFlows

namespace RangeDatabase

variable {db : RangeDatabase} {now : ℤ} {request : AnalyticsRangeRequest} {chainId : ℕ}
  {start middle stop : ℤ}

/-- Which history is found does not depend on the range. -/
theorem coverageOf_between (assetId : ParallelAssetId) :
    db.coverageOf (request.between start stop) chainId assetId
      = db.coverageOf request chainId assetId := rfl

theorem assetReport_covered {assetId : ParallelAssetId} {coverage : RangeCoverageRow}
    (found : db.coverageOf request chainId assetId = some coverage)
    (covered : coverage.coverageStart ≤ start ∧ stop ≤ coverage.coverageEnd) :
    db.assetReport now (request.between start stop) chainId assetId
      = (db.activityForRange chainId assetId start stop coverage.sourceScope).map
          (.available start stop coverage) := by
  unfold assetReport
  rw [coverageOf_between, found]
  exact if_pos covered

theorem assetReport_uncovered {assetId : ParallelAssetId}
    (uncovered : ∀ coverage ∈ db.coverageOf request chainId assetId,
      ¬ (coverage.coverageStart ≤ start ∧ stop ≤ coverage.coverageEnd)) :
    ∃ report, db.assetReport now (request.between start stop) chainId assetId = .ok report ∧
      report.activity? = none ∧ report.rangeStart? = none := by
  unfold assetReport
  rw [coverageOf_between]
  cases found : db.coverageOf request chainId assetId with
  | none => exact ⟨_, rfl, rfl, rfl⟩
  | some coverage => exact ⟨_, if_neg (uncovered coverage found), rfl, rfl⟩

/-- Where an asset is available there is activity of its range. -/
theorem isSome_activity?_iff {assetId : ParallelAssetId} {report : AssetReport}
    (run : db.assetReport now (request.between start stop) chainId assetId = .ok report) :
    report.activity?.isSome ↔ ∃ coverage ∈ db.coverageOf request chainId assetId,
      coverage.coverageStart ≤ start ∧ stop ≤ coverage.coverageEnd := by
  constructor
  · intro available
    by_contra uncovered
    obtain ⟨other, same, absent, -⟩ :=
      @assetReport_uncovered db now request chainId start stop assetId
        fun coverage found covered => uncovered ⟨coverage, found, covered⟩
    obtain rfl := Except.ok.inj (same.symm.trans run)
    rw [absent] at available
    cases available
  · rintro ⟨coverage, found, covered⟩
    rw [assetReport_covered found covered] at run
    obtain ⟨activity, -, rfl⟩ := map_eq_ok.mp run
    rfl

theorem rangeStart?_eq {assetId : ParallelAssetId} {report : AssetReport}
    (run : db.assetReport now (request.between start stop) chainId assetId = .ok report) :
    report.rangeStart? = if report.activity?.isSome then some start else none := by
  by_cases covered : ∃ coverage ∈ db.coverageOf request chainId assetId,
      coverage.coverageStart ≤ start ∧ stop ≤ coverage.coverageEnd
  · obtain ⟨coverage, found, covered⟩ := covered
    rw [assetReport_covered found covered] at run
    obtain ⟨activity, -, rfl⟩ := map_eq_ok.mp run
    rfl
  · obtain ⟨other, same, absent, unset⟩ :=
      @assetReport_uncovered db now request chainId start stop assetId
        fun coverage found inside => covered ⟨coverage, found, inside⟩
    obtain rfl := Except.ok.inj (same.symm.trans run)
    rw [absent, unset]
    rfl

/-- A named report is that of its asset. -/
theorem lookup_assets {assetIds : List ParallelAssetId}
    {entries : List (ParallelAssetId × AssetReport)}
    (run : assetIds.mapM (fun assetId =>
      (db.assetReport now request chainId assetId).map (assetId, ·)) = .ok entries)
    {assetId : ParallelAssetId} {report : AssetReport} :
    entries.lookup assetId = some report ↔
      assetId ∈ assetIds ∧ db.assetReport now request chainId assetId = .ok report := by
  rw [mapM_eq_ok] at run
  induction run with
  | nil => simp
  | @cons first entry rest others head tail ih =>
      obtain ⟨value, read, rfl⟩ := map_eq_ok.mp head
      rw [List.lookup_cons]
      by_cases same : assetId = first
      · subst same
        rw [beq_self_eq_true]
        simp [read]
      · rw [beq_eq_false_iff_ne.mpr same, List.mem_cons]
        simp [ih, same]

theorem exists_lookup_assets {assetIds : List ParallelAssetId}
    {entries : List (ParallelAssetId × AssetReport)}
    (run : assetIds.mapM (fun assetId =>
      (db.assetReport now request chainId assetId).map (assetId, ·)) = .ok entries)
    {assetId : ParallelAssetId} :
    (∃ report, entries.lookup assetId = some report) ↔ assetId ∈ assetIds := by
  constructor
  · rintro ⟨report, named⟩
    exact ((lookup_assets run).mp named).1
  · intro mem
    obtain ⟨_, read⟩ := exists_mapM_eq_ok_iff.mp ⟨_, run⟩ assetId mem
    obtain ⟨report, read, -⟩ := map_eq_ok.mp read
    exact ⟨report, (lookup_assets run).mpr ⟨mem, read⟩⟩

/-- The sUSDp of a chain is asked for and available. -/
def savingsAvailable (entries : List (ParallelAssetId × AssetReport)) : Bool :=
  ((entries.lookup .susdp).bind (·.activity?)).isSome

theorem chainFlows_between {assetIds : List ParallelAssetId}
    {entries : List (ParallelAssetId × AssetReport)}
    (run : assetIds.mapM (fun assetId =>
      (db.assetReport now (request.between start stop) chainId assetId).map (assetId, ·))
        = .ok entries) :
    db.chainFlows now (request.between start stop) chainId (entries.lookup .susdp)
      = if savingsAvailable entries then (db.savingsFlowsForRange chainId start stop).map some
        else .ok none := by
  unfold chainFlows savingsAvailable
  cases named : entries.lookup .susdp with
  | none => rfl
  | some report =>
      rw [Option.bind_some, Option.bind_some,
        rangeStart?_eq ((lookup_assets run).mp named).2]
      cases report.activity? <;> rfl

/-- What a report of a chain is made of. -/
theorem chainReport_between_eq_ok {report : ChainReport} :
    db.chainReport now (request.between start stop) chainId = .ok report ↔
      ∃ entries flows, request.assetIds.eraseDups.mapM (fun assetId =>
          (db.assetReport now (request.between start stop) chainId assetId).map (assetId, ·))
            = .ok entries ∧
        (if savingsAvailable entries then (db.savingsFlowsForRange chainId start stop).map some
          else .ok none) = .ok flows ∧
        ∃ adapter ∈ savingsChainAdapters.find? (·.chainId = chainId),
          (⟨chainId, adapter.chainSlug, adapter.chainName, entries, flows,
            db.chainYpo now (request.between start stop) chainId⟩ : ChainReport) = report := by
  constructor
  · intro run
    obtain ⟨entries, assetsRun, run⟩ := bind_eq_ok.mp run
    obtain ⟨flows, flowsRun, run⟩ := bind_eq_ok.mp run
    rw [chainFlows_between assetsRun] at flowsRun
    refine ⟨entries, flows, assetsRun, flowsRun, ?_⟩
    cases found : savingsChainAdapters.find? (·.chainId = chainId) with
    | none =>
        rw [found] at run
        cases run
    | some adapter =>
        rw [found] at run
        exact ⟨adapter, rfl, Except.ok.inj run⟩
  · rintro ⟨entries, flows, assetsRun, flowsRun, adapter, found, rfl⟩
    rw [← chainFlows_between assetsRun] at flowsRun
    refine bind_eq_ok.mpr ⟨entries, assetsRun, bind_eq_ok.mpr ⟨flows, flowsRun, ?_⟩⟩
    rw [found]

section Moments

variable (before : start ≤ middle) (after : middle ≤ stop)
include before after

theorem assetReport_overlap {assetId : ParallelAssetId} {left right : AssetReport}
    (leftRun : db.assetReport now (request.between start middle) chainId assetId = .ok left)
    (rightRun : db.assetReport now (request.between middle stop) chainId assetId = .ok right) :
    ∃ whole, db.assetReport now (request.between start stop) chainId assetId = .ok whole ∧
      whole.Overlapping db chainId assetId middle left right := by
  by_cases covered : ∃ coverage ∈ db.coverageOf request chainId assetId,
      coverage.coverageStart ≤ start ∧ stop ≤ coverage.coverageEnd
  · obtain ⟨coverage, found, starts, ends⟩ := covered
    rw [assetReport_covered found ⟨starts, after.trans ends⟩] at leftRun
    rw [assetReport_covered found ⟨starts.trans before, ends⟩] at rightRun
    obtain ⟨leftActivity, leftAdds, rfl⟩ := map_eq_ok.mp leftRun
    obtain ⟨rightActivity, rightAdds, rfl⟩ := map_eq_ok.mp rightRun
    obtain ⟨activity, shared, run, sharedRun, overlapping⟩ :=
      activityForRange_overlap before after leftAdds rightAdds
    refine ⟨.available start stop coverage activity, ?_, ⟨?_, ?_⟩⟩
    · rw [assetReport_covered found ⟨starts, ends⟩, run]
      rfl
    · exact iff_of_true rfl ⟨rfl, rfl⟩
    · rintro _ ⟨⟩ _ ⟨⟩ _ ⟨⟩
      exact ⟨coverage.sourceScope, shared, sharedRun, overlapping⟩
  · obtain ⟨whole, run, absent, -⟩ :=
      @assetReport_uncovered db now request chainId start stop assetId
        fun coverage found inside => covered ⟨coverage, found, inside⟩
    refine ⟨whole, run, ⟨?_, ?_⟩⟩
    · rw [isSome_activity?_iff run, isSome_activity?_iff leftRun, isSome_activity?_iff rightRun]
      refine iff_of_false covered ?_
      -- one history is found for both parts
      rintro ⟨⟨coverage, found, starts, -⟩, other, same, -, ends⟩
      obtain rfl := Option.mem_unique found same
      exact covered ⟨coverage, found, starts, ends⟩
    · intro activity present
      rw [absent] at present
      cases present

theorem assets_overlap {assetIds : List ParallelAssetId}
    {leftEntries rightEntries : List (ParallelAssetId × AssetReport)}
    (leftRun : assetIds.mapM (fun assetId =>
      (db.assetReport now (request.between start middle) chainId assetId).map (assetId, ·))
        = .ok leftEntries)
    (rightRun : assetIds.mapM (fun assetId =>
      (db.assetReport now (request.between middle stop) chainId assetId).map (assetId, ·))
        = .ok rightEntries) :
    ∃ entries, assetIds.mapM (fun assetId =>
        (db.assetReport now (request.between start stop) chainId assetId).map (assetId, ·))
          = .ok entries ∧
      ∀ assetId, ∀ report ∈ entries.lookup assetId, ∀ leftReport ∈ leftEntries.lookup assetId,
        ∀ rightReport ∈ rightEntries.lookup assetId,
          report.Overlapping db chainId assetId middle leftReport rightReport := by
  have leftReads := exists_mapM_eq_ok_iff.mp ⟨_, leftRun⟩
  have rightReads := exists_mapM_eq_ok_iff.mp ⟨_, rightRun⟩
  obtain ⟨entries, run⟩ : ∃ entries, assetIds.mapM (fun assetId =>
      (db.assetReport now (request.between start stop) chainId assetId).map (assetId, ·))
        = .ok entries := by
    refine exists_mapM_eq_ok_iff.mpr fun assetId mem => ?_
    obtain ⟨_, leftReport⟩ := leftReads assetId mem
    obtain ⟨_, rightReport⟩ := rightReads assetId mem
    obtain ⟨left, leftReport, -⟩ := map_eq_ok.mp leftReport
    obtain ⟨right, rightReport, -⟩ := map_eq_ok.mp rightReport
    obtain ⟨whole, report, -⟩ := assetReport_overlap before after leftReport rightReport
    exact ⟨_, map_eq_ok.mpr ⟨whole, report, rfl⟩⟩
  refine ⟨entries, run, fun assetId report named left leftNamed right rightNamed => ?_⟩
  obtain ⟨whole, same, overlapping⟩ := assetReport_overlap before after
    ((lookup_assets leftRun).mp leftNamed).2 ((lookup_assets rightRun).mp rightNamed).2
  obtain rfl := Except.ok.inj (((lookup_assets run).mp named).2.symm.trans same)
  exact overlapping

theorem chainReport_overlap {left right : ChainReport}
    (leftRun : db.chainReport now (request.between start middle) chainId = .ok left)
    (rightRun : db.chainReport now (request.between middle stop) chainId = .ok right) :
    ∃ whole, db.chainReport now (request.between start stop) chainId = .ok whole ∧
      whole.Overlapping db middle left right := by
  obtain ⟨leftEntries, leftFlows, leftAssets, leftAdds, adapter, found, rfl⟩ :=
    chainReport_between_eq_ok.mp leftRun
  obtain ⟨rightEntries, rightFlows, rightAssets, rightAdds, _, -, rfl⟩ :=
    chainReport_between_eq_ok.mp rightRun
  obtain ⟨entries, assets, reports⟩ := assets_overlap before after leftAssets rightAssets
  have savings : savingsAvailable entries
      = (savingsAvailable leftEntries && savingsAvailable rightEntries) := by
    unfold savingsAvailable
    by_cases mem : ParallelAssetId.susdp ∈ request.assetIds.eraseDups
    · obtain ⟨report, named⟩ := (exists_lookup_assets assets).mpr mem
      obtain ⟨leftReport, leftNamed⟩ := (exists_lookup_assets leftAssets).mpr mem
      obtain ⟨rightReport, rightNamed⟩ := (exists_lookup_assets rightAssets).mpr mem
      rw [named, leftNamed, rightNamed, Bool.eq_iff_iff, Bool.and_eq_true]
      exact (reports _ report named leftReport leftNamed rightReport rightNamed).available
    · have absent := mt (exists_lookup_assets assets).mp mem
      have leftAbsent := mt (exists_lookup_assets leftAssets).mp mem
      rw [Option.eq_none_iff_forall_ne_some.mpr fun report named => absent ⟨report, named⟩,
        Option.eq_none_iff_forall_ne_some.mpr fun report named => leftAbsent ⟨report, named⟩]
      rfl
  by_cases both : savingsAvailable leftEntries ∧ savingsAvailable rightEntries
  · rw [if_pos both.1] at leftAdds
    rw [if_pos both.2] at rightAdds
    obtain ⟨left, leftSum, rfl⟩ := map_eq_ok.mp leftAdds
    obtain ⟨right, rightSum, rfl⟩ := map_eq_ok.mp rightAdds
    obtain ⟨whole, shared, adds, sharedAdds, overlapping⟩ :=
      savingsFlowsForRange_overlap before after leftSum rightSum
    refine ⟨_, chainReport_between_eq_ok.mpr
      ⟨entries, some whole, assets, ?_, adapter, found, rfl⟩, reports,
      iff_of_true rfl ⟨rfl, rfl⟩, ?_⟩
    · rw [savings, both.1, both.2, Bool.and_self, if_pos rfl, adds]
      rfl
    · rintro _ ⟨⟩ _ ⟨⟩ _ ⟨⟩
      exact ⟨shared, sharedAdds, overlapping⟩
  · refine ⟨_, chainReport_between_eq_ok.mpr
      ⟨entries, none, assets, ?_, adapter, found, rfl⟩, reports, ?_, fun _ flows => by cases flows⟩
    · rw [savings, if_neg (by rwa [Bool.and_eq_true])]
    · refine iff_of_false Bool.false_ne_true fun ⟨leftSome, rightSome⟩ => both ⟨?_, ?_⟩
      · by_contra without
        rw [if_neg without] at leftAdds
        obtain rfl := Except.ok.inj leftAdds
        cases leftSome
      · by_contra without
        rw [if_neg without] at rightAdds
        obtain rfl := Except.ok.inj rightAdds
        cases rightSome

end Moments

end RangeDatabase

/-- **Ranges that share an end add up.**  If two ranges that follow each other can be answered,
so can the whole range.  An asset is available in the whole if and only if it is in both parts, and
then the volumes and counts of the parts are those of the whole and, once more, those of the
moment where the parts meet; of distinct accounts the parts count no fewer than both.  The same
holds of the flows of the savings. -/
theorem ranges_overlap {db : RangeDatabase} {now : ℤ} {request : AnalyticsRangeRequest}
    {start middle stop : ℤ} (before : start ≤ middle) (after : middle ≤ stop)
    {left right : RangeAnalytics}
    (leftRun : readRangeAnalytics db now (request.between start middle) = .ok left)
    (rightRun : readRangeAnalytics db now (request.between middle stop) = .ok right) :
    ∃ whole, readRangeAnalytics db now (request.between start stop) = .ok whole ∧
      (∀ answer ∈ [whole, left, right], answer.chains.map (·.chainId) = request.chainIds) ∧
      ∀ report ∈ whole.chains, ∀ leftReport ∈ left.chains, ∀ rightReport ∈ right.chains,
        leftReport.chainId = report.chainId → rightReport.chainId = report.chainId →
          report.Overlapping db middle leftReport rightReport := by
  obtain ⟨valid, leftChains, leftReports, rfl⟩ := readRangeAnalytics_eq_ok.mp leftRun
  obtain ⟨-, rightChains, rightReports, rfl⟩ := readRangeAnalytics_eq_ok.mp rightRun
  have leftReads := exists_mapM_eq_ok_iff.mp ⟨_, leftReports⟩
  have rightReads := exists_mapM_eq_ok_iff.mp ⟨_, rightReports⟩
  obtain ⟨chains, reports⟩ : ∃ chains,
      request.chainIds.mapM (db.chainReport now (request.between start stop)) = .ok chains := by
    refine exists_mapM_eq_ok_iff.mpr fun chainId mem => ?_
    obtain ⟨left, leftReport⟩ := leftReads chainId mem
    obtain ⟨right, rightReport⟩ := rightReads chainId mem
    obtain ⟨whole, report, -⟩ :=
      RangeDatabase.chainReport_overlap before after leftReport rightReport
    exact ⟨whole, report⟩
  have wholeRun : readRangeAnalytics db now (request.between start stop)
      = .ok (db.answer now (request.between start stop) chains) :=
    readRangeAnalytics_eq_ok.mpr ⟨valid, chains, reports, rfl⟩
  refine ⟨_, wholeRun, ?_, ?_⟩
  · simp only [List.forall_mem_cons, List.not_mem_nil, IsEmpty.forall_iff, implies_true, and_true]
    exact ⟨(chains_of_readRangeAnalytics wholeRun).1, (chains_of_readRangeAnalytics leftRun).1,
      (chains_of_readRangeAnalytics rightRun).1⟩
  · intro report mem leftReport leftMem rightReport rightMem leftSame rightSame
    obtain ⟨chainId, -, run⟩ := (mem_of_mapM_eq_ok reports report).mp mem
    obtain ⟨leftId, -, leftStep⟩ := (mem_of_mapM_eq_ok leftReports leftReport).mp leftMem
    obtain ⟨rightId, -, rightStep⟩ := (mem_of_mapM_eq_ok rightReports rightReport).mp rightMem
    rw [(RangeDatabase.chainReport_eq_ok leftStep).1, (RangeDatabase.chainReport_eq_ok run).1]
      at leftSame
    rw [(RangeDatabase.chainReport_eq_ok rightStep).1, (RangeDatabase.chainReport_eq_ok run).1]
      at rightSame
    subst leftSame rightSame
    obtain ⟨whole, same, overlapping⟩ :=
      RangeDatabase.chainReport_overlap before after leftStep rightStep
    obtain rfl := Except.ok.inj (run.symm.trans same)
    exact overlapping

/-- Base with three blocks, a deposit in the second. -/
def depositedRange : RangeDatabase where
  index := { Database.empty with
    blocks := [⟨8453, 10, "0xa", "0x9", 1, true⟩, ⟨8453, 11, "0xb", "0xa", 2, true⟩,
      ⟨8453, 12, "0xc", "0xb", 3, true⟩]
    protocolEvents := [⟨1, 8453, 11, "0x1", 0, "susdp-savings", "Deposit",
      .object [("owner", .text "0xd"), ("assets", .decimal 5)], "1"⟩] }
  balances := []
  activity := [⟨⟨8453, ⟨.susdp, 1, 3, 0, 0, 0, 0, 0, 0, 0, 0, 0⟩, "savings-history:base", 10, 12,
    true, "1", "1"⟩, 0⟩]
  yields := []

/-- The deposit is in both of two ranges that meet at its block. -/
theorem ranges_overlap_deposit :
    let request : AnalyticsRangeRequest := ⟨.custom, [8453], [.susdp], none, none, none⟩
    ∃ left right whole, readRangeAnalytics depositedRange 0 (request.between 1000 2000) = .ok left ∧
      readRangeAnalytics depositedRange 0 (request.between 2000 3000) = .ok right ∧
      readRangeAnalytics depositedRange 0 (request.between 1000 3000) = .ok whole ∧
      left.savingsFlows.depositedAssets = 5 ∧ right.savingsFlows.depositedAssets = 5 ∧
      ∀ report ∈ whole.chains, ∀ leftReport ∈ left.chains, ∀ rightReport ∈ right.chains,
        leftReport.chainId = report.chainId → rightReport.chainId = report.chainId →
          report.Overlapping depositedRange 2000 leftReport rightReport := by
  intro request
  obtain ⟨left, leftRun, leftSum⟩ : ∃ left,
      readRangeAnalytics depositedRange 0 (request.between 1000 2000) = .ok left ∧
        left.savingsFlows.depositedAssets = 5 := ⟨_, rfl, by decide⟩
  obtain ⟨right, rightRun, rightSum⟩ : ∃ right,
      readRangeAnalytics depositedRange 0 (request.between 2000 3000) = .ok right ∧
        right.savingsFlows.depositedAssets = 5 := ⟨_, rfl, by decide⟩
  obtain ⟨whole, wholeRun, -, overlapping⟩ :=
    ranges_overlap (by decide) (by decide) leftRun rightRun
  exact ⟨left, right, whole, leftRun, rightRun, wholeRun, leftSum, rightSum, overlapping⟩

end UsdpIndexer
