import Mathlib.Algebra.Order.Group.Unbundled.Int
import Mathlib.Data.Rat.Init

/-!
# Judging an interval

`verification/evaluators.ts`: seven reconciliations and nine conditions on the health of
the index are judged, and the judgements are counted into one verdict.

A judgement has three values.  It is `pass` or `fail` where everything that it is about is
there, and `warn` otherwise; the verdict of the whole goes by the worst of them, except that
only a critical finding can make it `fail`.  `summarizeVerification_sound` says what each
verdict means for the figures that came in.

Ages and their bounds are rational numbers, counts are natural numbers.
-/

namespace UsdpIndexer

/-! ## Judgements -/

/-- What a check comes to. -/
inductive VerificationStatus
  | pass
  | warn
  | fail
deriving DecidableEq, Repr

/-- How grave it is if a check of the operation fails. -/
inductive FindingSeverity
  | info
  | warning
  | critical
deriving DecidableEq, Repr

/-- A value in the diagnostics. -/
inductive DiagnosticValue
  | null
  | text (value : String)
  | number (value : ℚ)
  | bool (value : Bool)
deriving DecidableEq, Repr

/-- What a check shows beside its verdict, by name. -/
abbrev Diagnostics := List (String × DiagnosticValue)

/-- `value?.toString() ?? null` -/
def DiagnosticValue.ofBigint (value : Option ℤ) : DiagnosticValue :=
  (value.map fun value => text (toString value)).getD null

/-- `value ?? null` -/
def DiagnosticValue.ofNumber (value : Option ℚ) : DiagnosticValue := (value.map number).getD null

/-- What a comparison of two figures comes to. -/
structure ReconciliationResult where
  checkName : String
  status : VerificationStatus
  expectedValue : Option String
  actualValue : Option String
  variance : Option String
  tolerance : Option String
  diagnostics : Diagnostics
deriving DecidableEq, Repr

/-- What a check of the operation comes to. -/
structure HealthFinding where
  checkName : String
  status : VerificationStatus
  severity : FindingSeverity
  message : String
  diagnostics : Diagnostics
deriving DecidableEq, Repr

/-! ## Reconciliations -/

/-- The amount of a difference. -/
def absolute (value : ℤ) : ℤ := if value < 0 then -value else value

theorem absolute_eq_abs (value : ℤ) : absolute value = |value| := by
  unfold absolute
  split
  · rw [abs_of_neg ‹_›]
  · rw [abs_of_nonneg (by omega)]

/-- What is compared, and by how much it may differ. -/
structure CompareNumericInput where
  checkName : String
  expected : Option ℤ
  actual : Option ℤ
  tolerance : Option ℤ := none
  diagnostics : Diagnostics := []

/-- Two figures are compared; if one of them is missing there is a warning. -/
def compareNumeric (input : CompareNumericInput) : ReconciliationResult :=
  let tolerance := input.tolerance.getD 0
  match input.expected, input.actual with
  | some expected, some actual =>
      let variance := actual - expected
      { checkName := input.checkName
        status := if absolute variance ≤ tolerance then .pass else .fail
        expectedValue := some (toString expected)
        actualValue := some (toString actual)
        variance := some (toString variance)
        tolerance := some (toString tolerance)
        diagnostics := input.diagnostics }
  | expected, actual =>
      { checkName := input.checkName
        status := .warn
        expectedValue := expected.map toString
        actualValue := actual.map toString
        variance := none
        tolerance := some (toString tolerance)
        diagnostics := ("reason", .text "required_input_unavailable") :: input.diagnostics }

/-- A figure before and after a range, and what should have changed it. -/
structure ReconcileDeltaInput where
  checkName : String
  start : Option ℤ
  netChange : Option ℤ
  finish : Option ℤ
  tolerance : Option ℤ := none
  diagnostics : Diagnostics := []

/-- The figure after the range is compared with the one before and its change. -/
def reconcileDelta (input : ReconcileDeltaInput) : ReconciliationResult :=
  compareNumeric
    { checkName := input.checkName
      expected := do
        let start ← input.start
        let netChange ← input.netChange
        return start + netChange
      actual := input.finish
      tolerance := input.tolerance
      diagnostics := ("start", .ofBigint input.start) ::
        ("netChange", .ofBigint input.netChange) :: input.diagnostics }

/-- The figures of the seven identities. -/
structure CoreReconciliationInput where
  startUsdpSupply : Option ℤ
  endUsdpSupply : Option ℤ
  usdpMinted : Option ℤ
  usdpBurned : Option ℤ
  startSusdpSupply : Option ℤ
  endSusdpSupply : Option ℤ
  susdpMinted : Option ℤ
  susdpBurned : Option ℤ
  startActualAssets : Option ℤ
  endActualAssets : Option ℤ
  depositedAssets : Option ℤ
  withdrawnAssets : Option ℤ
  accruedAssets : Option ℤ
  directUnderlyingNet : Option ℤ
  convertedTotalSupplyAssets : Option ℤ
  endTotalAssets : Option ℤ
  holderBalanceSum : Option ℤ
  holderHistoryComplete : Bool
  rateIntegratedYpo : Option ℤ
  nativeYpo : Option ℤ
  indexedThroughBlock : Option ℤ
  requestedToBlock : ℤ
deriving DecidableEq, Repr

namespace CoreReconciliationInput

variable (input : CoreReconciliationInput)

/-- The change of the supply of USDp. -/
def usdpNet : Option ℤ := do
  let minted ← input.usdpMinted
  let burned ← input.usdpBurned
  return minted - burned

/-- The change of the number of shares. -/
def susdpNet : Option ℤ := do
  let minted ← input.susdpMinted
  let burned ← input.susdpBurned
  return minted - burned

/-- The change of the vault's balance. -/
def underlyingNet : Option ℤ := do
  let deposited ← input.depositedAssets
  let withdrawn ← input.withdrawnAssets
  let accrued ← input.accruedAssets
  let direct ← input.directUnderlyingNet
  return deposited - withdrawn + accrued + direct

end CoreReconciliationInput

/-- The seven identities, in the order of the report. -/
def evaluateCoreReconciliations (input : CoreReconciliationInput) : List ReconciliationResult :=
  [ reconcileDelta
      { checkName := "usdp_supply_delta_vs_mint_burn"
        start := input.startUsdpSupply
        netChange := input.usdpNet
        finish := input.endUsdpSupply
        diagnostics :=
          [("minted", .ofBigint input.usdpMinted), ("burned", .ofBigint input.usdpBurned)] },
    reconcileDelta
      { checkName := "susdp_supply_delta_vs_share_mint_burn"
        start := input.startSusdpSupply
        netChange := input.susdpNet
        finish := input.endSusdpSupply
        diagnostics :=
          [("minted", .ofBigint input.susdpMinted), ("burned", .ofBigint input.susdpBurned)] },
    reconcileDelta
      { checkName := "susdp_underlying_balance_accounting"
        start := input.startActualAssets
        netChange := input.underlyingNet
        finish := input.endActualAssets
        tolerance := some 1
        diagnostics :=
          [("deposits", .ofBigint input.depositedAssets),
            ("withdrawals", .ofBigint input.withdrawnAssets),
            ("accrued", .ofBigint input.accruedAssets),
            ("directUnderlyingNet", .ofBigint input.directUnderlyingNet)] },
    compareNumeric
      { checkName := "convert_to_assets_total_supply_vs_total_assets"
        expected := input.endTotalAssets
        actual := input.convertedTotalSupplyAssets
        tolerance := some 1 },
    compareNumeric
      { checkName := "holder_ledger_sum_vs_susdp_supply"
        expected := if input.holderHistoryComplete then input.endSusdpSupply else none
        actual := if input.holderHistoryComplete then input.holderBalanceSum else none
        diagnostics := [("holderHistoryComplete", .bool input.holderHistoryComplete)] },
    compareNumeric
      { checkName := "ypo_event_pending_vs_rate_integration"
        expected := input.rateIntegratedYpo
        actual := input.nativeYpo
        tolerance := some 1 },
    compareNumeric
      { checkName := "indexed_head_vs_requested_finalized_head"
        expected := some input.requestedToBlock
        actual := input.indexedThroughBlock } ]

/-! ## Health -/

/-- What the operation of the indexer is judged by. -/
structure HealthInput where
  checkpointAgeSeconds : Option ℚ
  checkpointMaximumAgeSeconds : ℚ
  coverageGapCount : ℕ
  decodeFailureCount : ℕ
  duplicateLogCount : ℕ
  rpcRetryCount : ℕ
  rpcFailureCount : ℕ
  priceAgeSeconds : Option ℚ
  priceMaximumAgeSeconds : ℚ
  implementationMatchesManifest : Option Bool
  nativeYpo : Option ℤ
  holderHistoryComplete : Bool
deriving DecidableEq, Repr

/-- The judgement of a condition on a value that may be missing. -/
def statusOf {α : Type} (holds : α → Prop) [DecidablePred holds] : Option α → VerificationStatus
  | none => .warn
  | some value => if holds value then .pass else .fail

/-- A finding about a value that may be missing. -/
def optionalFinding (checkName : String) (status : VerificationStatus) (failed : FindingSeverity)
    (passes warns fails : String) (diagnostics : Diagnostics) : HealthFinding where
  checkName := checkName
  status := status
  severity := if status = .fail then failed else .info
  message := if status = .pass then passes else if status = .warn then warns else fails
  diagnostics := diagnostics

/-- A finding about a count that should be zero. -/
def countFinding (checkName : String) (count : ℕ) (passes fails key : String) : HealthFinding where
  checkName := checkName
  status := if count = 0 then .pass else .fail
  severity := if count = 0 then .info else .critical
  message := if count = 0 then passes else fails
  diagnostics := [(key, .number count)]

namespace HealthInput

variable (input : HealthInput)

/-- The checkpoint has been written lately. -/
def checkpointFreshness : HealthFinding :=
  optionalFinding "checkpoint_freshness"
    (statusOf (· ≤ input.checkpointMaximumAgeSeconds) input.checkpointAgeSeconds) .critical
    "Checkpoint is fresh" "Checkpoint freshness is unavailable" "Checkpoint is stale"
    [("ageSeconds", .ofNumber input.checkpointAgeSeconds),
      ("maximumAgeSeconds", .number input.checkpointMaximumAgeSeconds)]

/-- The range has no gap. -/
def blockCoverageGaps : HealthFinding :=
  countFinding "block_coverage_gaps" input.coverageGapCount "Requested coverage is gap-free"
    "Requested coverage contains block gaps" "gapCount"

/-- Every log that was recognized has been decoded. -/
def decodeFailures : HealthFinding :=
  countFinding "decode_failures" input.decodeFailureCount "All recognized protocol logs decoded"
    "Recognized protocol logs failed to decode" "count"

/-- No log is stored twice. -/
def duplicateLogs : HealthFinding :=
  countFinding "duplicate_logs" input.duplicateLogCount "No duplicate raw-log identities found"
    "Duplicate raw-log identities found" "count"

/-- No request has failed; one that was sent again is worth a warning. -/
def rpcDegradation : HealthFinding where
  checkName := "rpc_degradation"
  status :=
    if input.rpcFailureCount > 0 then .fail
    else if input.rpcRetryCount > 0 then .warn
    else .pass
  severity := if input.rpcFailureCount > 0 then .critical else .warning
  message :=
    if input.rpcFailureCount > 0 then "RPC failures occurred in the verified range"
    else if input.rpcRetryCount > 0 then "RPC retries occurred but completed work remained durable"
    else "No RPC degradation recorded"
  diagnostics :=
    [("retries", .number input.rpcRetryCount), ("failures", .number input.rpcFailureCount)]

/-- The price has been observed lately. -/
def priceFreshness : HealthFinding :=
  optionalFinding "price_freshness"
    (statusOf (· ≤ input.priceMaximumAgeSeconds) input.priceAgeSeconds) .warning
    "Price observation is fresh" "Price freshness is unavailable" "Price observation is stale"
    [("ageSeconds", .ofNumber input.priceAgeSeconds),
      ("maximumAgeSeconds", .number input.priceMaximumAgeSeconds)]

/-- The contracts at both ends are those of the manifest. -/
def implementationDrift : HealthFinding :=
  optionalFinding "implementation_drift"
    (statusOf (· = true) input.implementationMatchesManifest) .critical
    "Boundary implementations match" "Implementation evidence is unavailable"
    "Implementation changed inside the verified interval" []

/-- The yield is not negative. -/
def negativeYpo : HealthFinding :=
  optionalFinding "negative_ypo" (statusOf (0 ≤ ·) input.nativeYpo) .critical
    "Native YPO is non-negative" "Native YPO is unavailable" "Native YPO is negative"
    [("nativeYpo", .ofBigint input.nativeYpo)]

/-- The ledger of the holders goes back to the deployment. -/
def holderHistoryCompleteness : HealthFinding where
  checkName := "holder_history_completeness"
  status := if input.holderHistoryComplete then .pass else .warn
  severity := if input.holderHistoryComplete then .info else .warning
  message :=
    if input.holderHistoryComplete then "Holder history is complete"
    else "Holder metrics remain partial until lifetime replay completes"
  diagnostics := [("complete", .bool input.holderHistoryComplete)]

end HealthInput

/-- The nine checks of the operation, in the order of the report. -/
def evaluateHealth (input : HealthInput) : List HealthFinding :=
  [ input.checkpointFreshness, input.blockCoverageGaps, input.decodeFailures,
    input.duplicateLogs, input.rpcDegradation, input.priceFreshness,
    input.implementationDrift, input.negativeYpo, input.holderHistoryCompleteness ]

/-! ## The verdict -/

/-- How many checks have come to each verdict. -/
structure StatusCounts where
  pass : ℕ
  warn : ℕ
  fail : ℕ
deriving DecidableEq, Repr

/-- The verdicts are counted. -/
def statusCounts (statuses : List VerificationStatus) : StatusCounts where
  pass := (statuses.filter (· = .pass)).length
  warn := (statuses.filter (· = .warn)).length
  fail := (statuses.filter (· = .fail)).length

/-- What all checks together come to. -/
structure VerificationSummary where
  status : VerificationStatus
  reconciliation : StatusCounts
  health : StatusCounts
  criticalFailures : ℕ
deriving DecidableEq, Repr

/-- The whole fails with an identity or a critical check of the operation; anything else that is
not passed is a warning. -/
def summarizeVerification (results : List ReconciliationResult) (findings : List HealthFinding) :
    VerificationSummary :=
  let reconciliation := statusCounts (results.map (·.status))
  let health := statusCounts (findings.map (·.status))
  let criticalFailures :=
    (findings.filter fun finding => finding.status = .fail ∧ finding.severity = .critical).length
  { status :=
      if reconciliation.fail > 0 ∨ criticalFailures > 0 then .fail
      else if reconciliation.warn > 0 ∨ health.warn > 0 ∨ health.fail > 0 then .warn
      else .pass
    reconciliation := reconciliation
    health := health
    criticalFailures := criticalFailures }

/-! ## What the verdict is -/

section Judgement

variable {α : Type} {holds : α → Prop} [DecidablePred holds] {value : Option α}

theorem statusOf_eq_pass : statusOf holds value = .pass ↔ ∃ v, value = some v ∧ holds v := by
  cases value with
  | none => simp [statusOf]
  | some v => by_cases held : holds v <;> simp [statusOf, held]

theorem statusOf_eq_fail : statusOf holds value = .fail ↔ ∃ v, value = some v ∧ ¬ holds v := by
  cases value with
  | none => simp [statusOf]
  | some v => by_cases held : holds v <;> simp [statusOf, held]

end Judgement

theorem statusCounts_warn_pos {statuses : List VerificationStatus} :
    (statusCounts statuses).warn > 0 ↔ .warn ∈ statuses := by
  rw [statusCounts, gt_iff_lt, List.length_filter_pos_iff]
  simp

theorem statusCounts_fail_pos {statuses : List VerificationStatus} :
    (statusCounts statuses).fail > 0 ↔ .fail ∈ statuses := by
  rw [statusCounts, gt_iff_lt, List.length_filter_pos_iff]
  simp

/-- There is no fourth judgement. -/
theorem forall_eq_pass_iff {statuses : List VerificationStatus} :
    (∀ status ∈ statuses, status = .pass) ↔ .warn ∉ statuses ∧ .fail ∉ statuses := by
  constructor
  · intro passes
    exact ⟨fun mem => VerificationStatus.noConfusion (passes _ mem),
      fun mem => VerificationStatus.noConfusion (passes _ mem)⟩
  · rintro ⟨noWarning, noFailure⟩ status mem
    cases status with
    | pass => rfl
    | warn => exact absurd mem noWarning
    | fail => exact absurd mem noFailure

section Summary

variable {results : List ReconciliationResult} {findings : List HealthFinding}

theorem summarizeVerification_eq_fail :
    (summarizeVerification results findings).status = .fail
      ↔ .fail ∈ results.map (·.status) ∨
        ∃ finding ∈ findings, finding.status = .fail ∧ finding.severity = .critical := by
  have critical : (findings.filter fun finding =>
      finding.status = .fail ∧ finding.severity = .critical).length > 0
      ↔ ∃ finding ∈ findings, finding.status = .fail ∧ finding.severity = .critical := by
    rw [gt_iff_lt, List.length_filter_pos_iff]
    simp only [decide_eq_true_eq]
  simp only [summarizeVerification, statusCounts_fail_pos, statusCounts_warn_pos, critical]
  split
  · rename_i failed
    exact iff_of_true rfl failed
  · rename_i passed
    split <;> exact iff_of_false (by simp) passed

theorem summarizeVerification_eq_pass :
    (summarizeVerification results findings).status = .pass
      ↔ (∀ status ∈ results.map (·.status), status = .pass) ∧
        ∀ status ∈ findings.map (·.status), status = .pass := by
  rw [forall_eq_pass_iff, forall_eq_pass_iff]
  have critical : (findings.filter fun finding =>
      finding.status = .fail ∧ finding.severity = .critical).length > 0 →
      .fail ∈ findings.map (·.status) := by
    intro some
    obtain ⟨finding, mem, failed⟩ := List.length_filter_pos_iff.mp some
    exact List.mem_map.mpr ⟨finding, mem, (of_decide_eq_true failed).1⟩
  simp only [summarizeVerification, statusCounts_fail_pos, statusCounts_warn_pos]
  split
  · rename_i failed
    simp only [reduceCtorEq, false_iff]
    rintro ⟨⟨-, noFailure⟩, -, noFinding⟩
    exact failed.elim noFailure fun counted => noFinding (critical counted)
  · rename_i passed
    split
    · rename_i warned
      simp only [reduceCtorEq, false_iff]
      rintro ⟨⟨noWarning, -⟩, noFinding, noFailure⟩
      exact warned.elim noWarning (·.elim noFinding noFailure)
    · rename_i unwarned
      push Not at passed unwarned
      simp [passed.1, unwarned]

end Summary

/-! ## What is judged -/

/-- The identities between the figures of an interval. -/
inductive CoreIdentity
  | usdpSupply
  | susdpShares
  | underlyingAssets
  | conversion
  | holderBalances
  | ypo
  | indexedHead
deriving DecidableEq, Repr

namespace CoreIdentity

/-- The identities in the order of the report. -/
def all : List CoreIdentity :=
  [usdpSupply, susdpShares, underlyingAssets, conversion, holderBalances, ypo, indexedHead]

theorem mem_all (identity : CoreIdentity) : identity ∈ all := by
  cases identity <;> decide

/-- The name of an identity in the report. -/
def checkName : CoreIdentity → String
  | usdpSupply => "usdp_supply_delta_vs_mint_burn"
  | susdpShares => "susdp_supply_delta_vs_share_mint_burn"
  | underlyingAssets => "susdp_underlying_balance_accounting"
  | conversion => "convert_to_assets_total_supply_vs_total_assets"
  | holderBalances => "holder_ledger_sum_vs_susdp_supply"
  | ypo => "ypo_event_pending_vs_rate_integration"
  | indexedHead => "indexed_head_vs_requested_finalized_head"

theorem checkName_injective {identity identity' : CoreIdentity}
    (same : identity.checkName = identity'.checkName) : identity = identity' := by
  revert same
  cases identity <;> cases identity' <;> decide

/-- By how much the two sides of an identity may differ. -/
def tolerance : CoreIdentity → ℤ
  | underlyingAssets | conversion | ypo => 1
  | usdpSupply | susdpShares | holderBalances | indexedHead => 0

/-- By how much the two sides of an identity differ, where everything in it is there.  The
holder balances are there once their history is complete. -/
def difference (input : CoreReconciliationInput) : CoreIdentity → Option ℤ
  | usdpSupply => do
      let start ← input.startUsdpSupply
      let minted ← input.usdpMinted
      let burned ← input.usdpBurned
      let finish ← input.endUsdpSupply
      return finish - (start + minted - burned)
  | susdpShares => do
      let start ← input.startSusdpSupply
      let minted ← input.susdpMinted
      let burned ← input.susdpBurned
      let finish ← input.endSusdpSupply
      return finish - (start + minted - burned)
  | underlyingAssets => do
      let start ← input.startActualAssets
      let deposited ← input.depositedAssets
      let withdrawn ← input.withdrawnAssets
      let accrued ← input.accruedAssets
      let direct ← input.directUnderlyingNet
      let finish ← input.endActualAssets
      return finish - (start + deposited - withdrawn + accrued + direct)
  | conversion => do
      let totalAssets ← input.endTotalAssets
      let converted ← input.convertedTotalSupplyAssets
      return converted - totalAssets
  | holderBalances =>
      if input.holderHistoryComplete then do
        let supply ← input.endSusdpSupply
        let balances ← input.holderBalanceSum
        return balances - supply
      else none
  | ypo => do
      let integrated ← input.rateIntegratedYpo
      let nativeYpo ← input.nativeYpo
      return nativeYpo - integrated
  | indexedHead => do
      let indexedThrough ← input.indexedThroughBlock
      return indexedThrough - input.requestedToBlock

/-- Everything in the identity is there, and its sides agree within the tolerance. -/
def Holds (input : CoreReconciliationInput) (identity : CoreIdentity) : Prop :=
  ∃ difference, identity.difference input = some difference ∧ |difference| ≤ identity.tolerance

/-- Everything in the identity is there, and its sides differ by more than the tolerance. -/
def Fails (input : CoreReconciliationInput) (identity : CoreIdentity) : Prop :=
  ∃ difference, identity.difference input = some difference ∧ identity.tolerance < |difference|

end CoreIdentity

/-- A comparison judges the difference of its sides. -/
theorem compareNumeric_status (input : CompareNumericInput) :
    (compareNumeric input).status = statusOf (|·| ≤ input.tolerance.getD 0) (do
      let expected ← input.expected
      let actual ← input.actual
      return actual - expected) := by
  obtain ⟨checkName, expected, actual, tolerance, diagnostics⟩ := input
  cases expected with
  | none => rfl
  | some expected =>
      cases actual with
      | none => rfl
      | some actual => simp [compareNumeric, statusOf, absolute_eq_abs]

theorem reconcileDelta_status (input : ReconcileDeltaInput) :
    (reconcileDelta input).status = statusOf (|·| ≤ input.tolerance.getD 0) (do
      let start ← input.start
      let netChange ← input.netChange
      let finish ← input.finish
      return finish - (start + netChange)) := by
  rw [reconcileDelta, compareNumeric_status]
  simp only [bind_assoc, pure_bind]

/-- The judgement of an identity. -/
def CoreIdentity.status (input : CoreReconciliationInput) (identity : CoreIdentity) :
    VerificationStatus :=
  statusOf (|·| ≤ identity.tolerance) (identity.difference input)

theorem compareNumeric_checkName (input : CompareNumericInput) :
    (compareNumeric input).checkName = input.checkName := by
  unfold compareNumeric
  split <;> rfl

theorem reconcileDelta_checkName (input : ReconcileDeltaInput) :
    (reconcileDelta input).checkName = input.checkName := compareNumeric_checkName _

/-- The reconciliations judge the identities, in their order. -/
theorem evaluateCoreReconciliations_judge (input : CoreReconciliationInput) :
    (evaluateCoreReconciliations input).map (fun result => (result.checkName, result.status))
      = CoreIdentity.all.map fun identity => (identity.checkName, identity.status input) := by
  have regroup (a b c d : ℤ) : d - (a + b - c) = d - (a + (b - c)) := by omega
  have regroup' (a b c d e f : ℤ) : f - (a + b - c + d + e) = f - (a + (b - c + d + e)) := by omega
  simp only [evaluateCoreReconciliations, CoreIdentity.all, List.map_cons, List.map_nil,
    compareNumeric_status, reconcileDelta_status, compareNumeric_checkName,
    reconcileDelta_checkName, CoreIdentity.checkName, CoreIdentity.status,
    CoreIdentity.tolerance, CoreIdentity.difference, CoreReconciliationInput.usdpNet,
    CoreReconciliationInput.susdpNet, CoreReconciliationInput.underlyingNet, bind_assoc, pure_bind,
    regroup, regroup', Option.getD_none, Option.getD_some]
  cases input.holderHistoryComplete <;> rfl

theorem evaluateCoreReconciliations_statuses (input : CoreReconciliationInput) :
    (evaluateCoreReconciliations input).map (·.status)
      = CoreIdentity.all.map fun identity => identity.status input := by
  have judged := congrArg (List.map Prod.snd) (evaluateCoreReconciliations_judge input)
  rwa [List.map_map, List.map_map] at judged

/-- The result under the name of an identity is its judgement. -/
theorem exists_result_iff {input : CoreReconciliationInput} {identity : CoreIdentity}
    {status : VerificationStatus} :
    (∃ result ∈ evaluateCoreReconciliations input,
        result.checkName = identity.checkName ∧ result.status = status)
      ↔ identity.status input = status := by
  have named : (∃ result ∈ evaluateCoreReconciliations input,
        result.checkName = identity.checkName ∧ result.status = status)
      ↔ (identity.checkName, status) ∈ (evaluateCoreReconciliations input).map
          fun result => (result.checkName, result.status) := by
    simp only [List.mem_map, Prod.mk.injEq]
  rw [named, evaluateCoreReconciliations_judge, List.mem_map]
  constructor
  · rintro ⟨other, -, same⟩
    rw [Prod.mk.injEq] at same
    rw [← CoreIdentity.checkName_injective same.1]
    exact same.2
  · rintro rfl
    exact ⟨identity, identity.mem_all, rfl⟩

theorem CoreIdentity.status_eq_pass {input : CoreReconciliationInput} {identity : CoreIdentity} :
    identity.status input = .pass ↔ identity.Holds input := statusOf_eq_pass

theorem CoreIdentity.status_eq_fail {input : CoreReconciliationInput} {identity : CoreIdentity} :
    identity.status input = .fail ↔ identity.Fails input := by
  simp only [CoreIdentity.status, statusOf_eq_fail, CoreIdentity.Fails, not_le]

theorem evaluateCoreReconciliations_pass_iff {input : CoreReconciliationInput} :
    (∀ status ∈ (evaluateCoreReconciliations input).map (·.status), status = .pass)
      ↔ ∀ identity : CoreIdentity, identity.Holds input := by
  rw [evaluateCoreReconciliations_statuses]
  simp only [List.forall_mem_map, CoreIdentity.status_eq_pass]
  exact ⟨fun all identity => all identity identity.mem_all, fun all identity _ => all identity⟩

theorem evaluateCoreReconciliations_fail_iff {input : CoreReconciliationInput} :
    .fail ∈ (evaluateCoreReconciliations input).map (·.status)
      ↔ ∃ identity : CoreIdentity, identity.Fails input := by
  rw [evaluateCoreReconciliations_statuses, List.mem_map]
  simp only [CoreIdentity.status_eq_fail]
  exact ⟨fun ⟨identity, _, fails⟩ => ⟨identity, fails⟩,
    fun ⟨identity, fails⟩ => ⟨identity, identity.mem_all, fails⟩⟩

/-- Every condition on the health holds, and nothing had to be retried. -/
structure HealthInput.Sound (input : HealthInput) : Prop where
  checkpoint : ∃ age, input.checkpointAgeSeconds = some age ∧
    age ≤ input.checkpointMaximumAgeSeconds
  coverage : input.coverageGapCount = 0
  decoded : input.decodeFailureCount = 0
  distinct : input.duplicateLogCount = 0
  noFailure : input.rpcFailureCount = 0
  noRetry : input.rpcRetryCount = 0
  price : ∃ age, input.priceAgeSeconds = some age ∧ age ≤ input.priceMaximumAgeSeconds
  implementation : input.implementationMatchesManifest = some true
  ypo : ∃ nativeYpo, input.nativeYpo = some nativeYpo ∧ 0 ≤ nativeYpo
  holders : input.holderHistoryComplete = true

/-- A critical condition fails: a stale checkpoint, a gap, a log that was not decoded or is
there twice, a failed request, a changed implementation, or a negative yield. -/
inductive HealthInput.Critical (input : HealthInput) : Prop
  | checkpoint (age : ℚ) (is : input.checkpointAgeSeconds = some age)
      (stale : ¬ age ≤ input.checkpointMaximumAgeSeconds)
  | coverage (gaps : input.coverageGapCount ≠ 0)
  | undecoded (failures : input.decodeFailureCount ≠ 0)
  | duplicates (logs : input.duplicateLogCount ≠ 0)
  | requests (failures : input.rpcFailureCount ≠ 0)
  | implementation (changed : input.implementationMatchesManifest = some false)
  | ypo (nativeYpo : ℤ) (is : input.nativeYpo = some nativeYpo) (negative : nativeYpo < 0)

theorem countFinding_status {checkName passes fails key : String} {count : ℕ} :
    (countFinding checkName count passes fails key).status = .pass ↔ count = 0 := by
  unfold countFinding
  split <;> simp_all

theorem countFinding_critical {checkName passes fails key : String} {count : ℕ} :
    (countFinding checkName count passes fails key).status = .fail ∧
        (countFinding checkName count passes fails key).severity = .critical
      ↔ count ≠ 0 := by
  unfold countFinding
  split <;> simp_all

theorem optionalFinding_critical {checkName passes warns fails : String}
    {status : VerificationStatus} {failed : FindingSeverity} {diagnostics : Diagnostics} :
    (optionalFinding checkName status failed passes warns fails diagnostics).status = .fail ∧
        (optionalFinding checkName status failed passes warns fails diagnostics).severity
          = .critical
      ↔ status = .fail ∧ failed = .critical := by
  unfold optionalFinding
  cases status <;> simp

theorem rpcDegradation_status {input : HealthInput} :
    input.rpcDegradation.status = .pass
      ↔ input.rpcFailureCount = 0 ∧ input.rpcRetryCount = 0 := by
  unfold HealthInput.rpcDegradation
  split
  · simp; omega
  · split <;> simp <;> omega

theorem rpcDegradation_critical {input : HealthInput} :
    input.rpcDegradation.status = .fail ∧ input.rpcDegradation.severity = .critical
      ↔ input.rpcFailureCount ≠ 0 := by
  unfold HealthInput.rpcDegradation
  by_cases failures : input.rpcFailureCount > 0
  · simp [failures]; omega
  · by_cases retries : input.rpcRetryCount > 0 <;> simp [failures, retries] <;> omega

theorem holderHistoryCompleteness_status {input : HealthInput} :
    input.holderHistoryCompleteness.status = .pass ↔ input.holderHistoryComplete = true := by
  unfold HealthInput.holderHistoryCompleteness
  split <;> simp_all

/-- The holders' history is never critical. -/
theorem holderHistoryCompleteness_ne_fail (input : HealthInput) :
    input.holderHistoryCompleteness.status ≠ .fail := by
  unfold HealthInput.holderHistoryCompleteness
  split <;> simp

theorem evaluateHealth_pass_iff {input : HealthInput} :
    (∀ status ∈ (evaluateHealth input).map (·.status), status = .pass) ↔ input.Sound := by
  simp only [evaluateHealth, List.map_cons, List.map_nil, List.forall_mem_cons, List.not_mem_nil,
    false_implies, implies_true, and_true, HealthInput.checkpointFreshness,
    HealthInput.blockCoverageGaps, HealthInput.decodeFailures, HealthInput.duplicateLogs,
    HealthInput.priceFreshness, HealthInput.implementationDrift, HealthInput.negativeYpo,
    optionalFinding, countFinding_status, rpcDegradation_status,
    holderHistoryCompleteness_status, statusOf_eq_pass]
  constructor
  · rintro ⟨checkpoint, coverage, decoded, distinct, ⟨noFailure, noRetry⟩, price,
      ⟨_, matched, rfl⟩, ypo, holders⟩
    exact ⟨checkpoint, coverage, decoded, distinct, noFailure, noRetry, price, matched, ypo,
      holders⟩
  · intro sound
    exact ⟨sound.checkpoint, sound.coverage, sound.decoded, sound.distinct,
      ⟨sound.noFailure, sound.noRetry⟩, sound.price, ⟨_, sound.implementation, rfl⟩, sound.ypo,
      sound.holders⟩

theorem evaluateHealth_critical_iff {input : HealthInput} :
    (∃ finding ∈ evaluateHealth input, finding.status = .fail ∧ finding.severity = .critical)
      ↔ input.Critical := by
  simp only [evaluateHealth, List.mem_cons, exists_eq_or_imp, List.not_mem_nil, false_and,
    exists_eq_left, or_false, HealthInput.checkpointFreshness, HealthInput.blockCoverageGaps,
    HealthInput.decodeFailures, HealthInput.duplicateLogs, HealthInput.priceFreshness,
    HealthInput.implementationDrift, HealthInput.negativeYpo, optionalFinding_critical,
    countFinding_critical, rpcDegradation_critical, holderHistoryCompleteness_ne_fail,
    statusOf_eq_fail, reduceCtorEq, and_false, and_true, false_or]
  constructor
  · rintro (⟨age, is, stale⟩ | gaps | undecoded | logs | requests | ⟨matched, is, changed⟩ |
      ⟨nativeYpo, is, negative⟩)
    · exact .checkpoint age is stale
    · exact .coverage gaps
    · exact .undecoded undecoded
    · exact .duplicates logs
    · exact .requests requests
    · obtain rfl : matched = false := Bool.eq_false_iff.mpr changed
      exact .implementation is
    · exact .ypo nativeYpo is (not_le.mp negative)
  · rintro (⟨age, is, stale⟩ | gaps | undecoded | logs | requests | is | ⟨nativeYpo, is, negative⟩)
    · exact .inl ⟨age, is, stale⟩
    · exact .inr (.inl gaps)
    · exact .inr (.inr (.inl undecoded))
    · exact .inr (.inr (.inr (.inl logs)))
    · exact .inr (.inr (.inr (.inr (.inl requests))))
    · exact .inr (.inr (.inr (.inr (.inr (.inl ⟨false, is, Bool.false_ne_true⟩)))))
    · exact .inr (.inr (.inr (.inr (.inr (.inr ⟨nativeYpo, is, not_le.mpr negative⟩)))))

/-! ## Soundness -/

/-- The values of a reconciliation that may be missing. -/
def CoreReconciliationInput.optionalValues (input : CoreReconciliationInput) : List (Option ℤ) :=
  [ input.startUsdpSupply, input.endUsdpSupply, input.usdpMinted, input.usdpBurned,
    input.startSusdpSupply, input.endSusdpSupply, input.susdpMinted, input.susdpBurned,
    input.startActualAssets, input.endActualAssets, input.depositedAssets, input.withdrawnAssets,
    input.accruedAssets, input.directUnderlyingNet, input.convertedTotalSupplyAssets,
    input.endTotalAssets, input.holderBalanceSum, input.rateIntegratedYpo, input.nativeYpo,
    input.indexedThroughBlock ]

/-- Every value that may be missing is there. -/
def CoreReconciliationInput.AllPresent (input : CoreReconciliationInput) : Prop :=
  ∀ value ∈ input.optionalValues, value.isSome

/-- Everything that may be missing is there. -/
def HealthInput.AllPresent (input : HealthInput) : Prop :=
  input.checkpointAgeSeconds.isSome ∧ input.priceAgeSeconds.isSome ∧
    input.implementationMatchesManifest.isSome ∧ input.nativeYpo.isSome

/-- Every value is part of an identity. -/
theorem allPresent_of_holds {input : CoreReconciliationInput}
    (holds : ∀ identity : CoreIdentity, identity.Holds input) : input.AllPresent := by
  obtain ⟨_, usdp, -⟩ := holds .usdpSupply
  obtain ⟨_, susdp, -⟩ := holds .susdpShares
  obtain ⟨_, underlying, -⟩ := holds .underlyingAssets
  obtain ⟨_, conversion, -⟩ := holds .conversion
  obtain ⟨_, holders, -⟩ := holds .holderBalances
  obtain ⟨_, ypo, -⟩ := holds .ypo
  obtain ⟨_, head, -⟩ := holds .indexedHead
  simp only [CoreIdentity.difference, Option.bind_eq_bind, Option.bind_eq_some_iff,
    Option.ite_none_right_eq_some] at usdp susdp underlying conversion holders ypo head
  obtain ⟨_, startUsdp, _, usdpMinted, _, usdpBurned, _, endUsdp, -⟩ := usdp
  obtain ⟨_, startSusdp, _, susdpMinted, _, susdpBurned, _, endSusdp, -⟩ := susdp
  obtain ⟨_, startAssets, _, deposited, _, withdrawn, _, accrued, _, direct, _, endAssets, -⟩ :=
    underlying
  obtain ⟨_, totalAssets, _, converted, -⟩ := conversion
  obtain ⟨-, _, -, _, balances, -⟩ := holders
  obtain ⟨_, integrated, _, nativeYpo, -⟩ := ypo
  obtain ⟨_, indexedThrough, -⟩ := head
  simp [CoreReconciliationInput.AllPresent, CoreReconciliationInput.optionalValues, startUsdp,
    usdpMinted, usdpBurned, endUsdp, startSusdp, susdpMinted, susdpBurned, endSusdp, startAssets,
    deposited, withdrawn, accrued, direct, endAssets, totalAssets, converted, balances, integrated,
    nativeYpo, indexedThrough]

theorem HealthInput.Sound.allPresent {input : HealthInput} (sound : input.Sound) :
    input.AllPresent := by
  obtain ⟨_, checkpoint, -⟩ := sound.checkpoint
  obtain ⟨_, price, -⟩ := sound.price
  obtain ⟨_, ypo, -⟩ := sound.ypo
  simp [AllPresent, checkpoint, price, ypo, sound.implementation]

/-- **A verdict means what it says.**  An interval passes if and only if every figure is
there, every identity holds within its tolerance, and every condition on the health holds
without a retry.  It fails if and only if an identity whose figures are all there is off by
more than its tolerance, or a critical condition fails. -/
theorem summarizeVerification_sound (i : CoreReconciliationInput) (h : HealthInput) :
    let verdict :=
      (summarizeVerification (evaluateCoreReconciliations i) (evaluateHealth h)).status
    (verdict = .pass ↔ i.AllPresent ∧ h.AllPresent ∧
      (∀ identity : CoreIdentity, identity.Holds i) ∧ h.Sound) ∧
    (verdict = .fail ↔ (∃ identity : CoreIdentity, identity.Fails i) ∨ h.Critical) := by
  intro verdict
  constructor
  · rw [summarizeVerification_eq_pass, evaluateCoreReconciliations_pass_iff,
      evaluateHealth_pass_iff]
    constructor
    · rintro ⟨holds, sound⟩
      exact ⟨allPresent_of_holds holds, sound.allPresent, holds, sound⟩
    · rintro ⟨-, -, holds, sound⟩
      exact ⟨holds, sound⟩
  · rw [summarizeVerification_eq_fail, evaluateCoreReconciliations_fail_iff,
      evaluateHealth_critical_iff]

end UsdpIndexer
