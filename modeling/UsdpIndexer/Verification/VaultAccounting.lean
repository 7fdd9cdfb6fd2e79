import Mathlib.Algebra.BigOperators.Group.List.Basic
import UsdpIndexer.Verification.IntervalChecks

/-!
# The accounts of the vault

The suite explains the change of the vault's USDp balance by the amounts that the events of
the vault state, and by the transfers that come with none of them.  It recognises the latter
by their transaction: a transfer counts as direct if there is no event of the vault in it.

Let every event come with the transfer that it is about.  A transfer that comes with no event
is then missed if there is an event in its transaction, and a transfer of the vault to itself
is counted though it changes nothing.  `vaultAccounting_iff` says that the accounts are right
exactly if both together amount to nothing.
-/

namespace UsdpIndexer

open Text FailingFold

/-! ## What the transfers change -/

/-- The number under a key, where there is one. -/
def payloadAmount (event : ProtocolEventRow) (key : String) : ℤ :=
  (payloadNumeric event.payload key).toOption.getD 0

section Change

variable (vault : String) (event : ProtocolEventRow)

/-- By how much a transfer changes the balance of the vault. -/
def balanceChange : ℤ :=
  (if payloadLower event.payload "to" = some vault then payloadAmount event "value" else 0)
    - if payloadLower event.payload "from" = some vault then payloadAmount event "value" else 0

/-- What the vault sends itself. -/
def selfTransfer : ℤ :=
  if payloadLower event.payload "to" = some vault ∧ payloadLower event.payload "from" = some vault
  then payloadAmount event "value" else 0

/-- What an event of the vault states. -/
def statedChange : ℤ :=
  if event.eventName = "Deposit" then payloadAmount event "assets"
  else if event.eventName = "Withdraw" then -payloadAmount event "assets"
  else payloadAmount event "interest"

end Change

/-- The transfer that an event of the vault is about, in its transaction: of the assets into
the vault or out of it, or a mint of the interest to the vault. -/
inductive Accompanies (vault : String) (event transfer : ProtocolEventRow) : Prop
  | deposit (named : event.eventName = "Deposit")
      (together : transfer.transactionHash = event.transactionHash)
      (sender : payloadLower transfer.payload "from" ≠ some vault)
      (receiver : payloadLower transfer.payload "to" = some vault)
      (amount : payloadAmount transfer "value" = payloadAmount event "assets")
  | withdraw (named : event.eventName = "Withdraw")
      (together : transfer.transactionHash = event.transactionHash)
      (sender : payloadLower transfer.payload "from" = some vault)
      (receiver : payloadLower transfer.payload "to" ≠ some vault)
      (amount : payloadAmount transfer "value" = payloadAmount event "assets")
  | accrued (named : event.eventName = "Accrued")
      (together : transfer.transactionHash = event.transactionHash)
      (sender : payloadLower transfer.payload "from" = some ZERO_ADDRESS)
      (receiver : payloadLower transfer.payload "to" = some vault)
      (amount : payloadAmount transfer "value" = payloadAmount event "interest")

theorem Accompanies.together {vault : String} {event transfer : ProtocolEventRow}
    (accompanies : Accompanies vault event transfer) :
    transfer.transactionHash = event.transactionHash := by
  cases accompanies <;> assumption

/-- It changes the balance by what the event states. -/
theorem Accompanies.balanceChange {vault : String} (deployed : vault ≠ ZERO_ADDRESS)
    {event transfer : ProtocolEventRow} (accompanies : Accompanies vault event transfer) :
    balanceChange vault transfer = statedChange event := by
  cases accompanies with
  | deposit named _ sender receiver amount =>
      simp [UsdpIndexer.balanceChange, statedChange, named, sender, receiver, amount]
  | withdraw named _ sender receiver amount =>
      simp [UsdpIndexer.balanceChange, statedChange, named, sender, receiver, amount]
  | accrued named _ sender receiver amount =>
      simp [UsdpIndexer.balanceChange, statedChange, named, sender, receiver, amount,
        deployed.symm]

namespace Database

variable (db : Database) (adapter : SavingsChainAdapter) (fromBlock toBlock : ℤ)

/-- The USDp transfers to the vault or from it. -/
def vaultTransfers : List ProtocolEventRow :=
  (db.eventsWithin adapter.chainId fromBlock toBlock).filter fun event =>
    event.Transfers "usdp-token" "to" (toLowerCase adapter.susdp.address) ∨
      event.Transfers "usdp-token" "from" (toLowerCase adapter.susdp.address)

/-- The events of the vault. -/
def vaultEvents : List ProtocolEventRow :=
  (db.eventsWithin adapter.chainId fromBlock toBlock).filter fun event =>
    event.contractRole = "susdp-savings" ∧ event.eventName ∈ ["Deposit", "Withdraw", "Accrued"]

end Database

theorem mem_vaultTransfers {db : Database} {adapter : SavingsChainAdapter}
    {fromBlock toBlock : ℤ} {event : ProtocolEventRow}
    (mem : event ∈ db.vaultTransfers adapter fromBlock toBlock) :
    event.chainId = adapter.chainId ∧
      (payloadLower event.payload "to" = some (toLowerCase adapter.susdp.address) ∨
        payloadLower event.payload "from" = some (toLowerCase adapter.susdp.address)) := by
  obtain ⟨within, touches⟩ := List.mem_filter.mp mem
  exact ⟨(of_decide_eq_true (List.mem_filter.mp within).2).1,
    (of_decide_eq_true touches).imp (·.2.2) (·.2.2)⟩

/-! ## What the suite adds up -/

/-- A sum that has been read is the sum of the numbers. -/
theorem sum_of_mapM {α : Type} {read : α → Except JsError ℤ} {rows : List α} {sum : ℤ}
    (result : (rows.mapM read).map List.sum = .ok sum) :
    sum = (rows.map fun row => (read row).toOption.getD 0).sum := by
  obtain ⟨values, each, rfl⟩ := map_eq_ok.mp result
  have pointwise := mapM_eq_ok.mp each
  congr 1
  clear each result
  induction pointwise with
  | nil => rfl
  | cons first _ ih => rw [List.map_cons, first, ← ih]; rfl

theorem sum_filter_map {α : Type} (p : α → Prop) [DecidablePred p] (f : α → ℤ) (rows : List α) :
    ((rows.filter p).map f).sum = (rows.map fun row => if p row then f row else 0).sum := by
  rw [List.sum_map_ite]
  simp

/-- The totals of the vault are what its events state. -/
theorem readEventTotals_vault {db : Database} {adapter : SavingsChainAdapter}
    {fromBlock toBlock : ℤ} {totals : EventTotals}
    (read : readEventTotals db adapter fromBlock toBlock = .ok totals) :
    totals.depositedAssets - totals.withdrawnAssets + totals.accruedAssets
      = ((db.vaultEvents adapter fromBlock toBlock).map statedChange).sum := by
  obtain ⟨usdpMinted, -, read⟩ := bind_eq_ok.mp read
  obtain ⟨usdpBurned, -, read⟩ := bind_eq_ok.mp read
  obtain ⟨susdpMinted, -, read⟩ := bind_eq_ok.mp read
  obtain ⟨susdpBurned, -, read⟩ := bind_eq_ok.mp read
  obtain ⟨deposited, depositedRead, read⟩ := bind_eq_ok.mp read
  obtain ⟨withdrawn, withdrawnRead, read⟩ := bind_eq_ok.mp read
  obtain ⟨accrued, accruedRead, read⟩ := bind_eq_ok.mp read
  cases read
  rw [sum_of_mapM depositedRead, sum_of_mapM withdrawnRead, sum_of_mapM accruedRead,
    Database.vaultEvents]
  generalize db.eventsWithin adapter.chainId fromBlock toBlock = events
  -- every event is in at most one of the three sums
  have each (event : ProtocolEventRow) :
      (if event.IsSavings "Deposit" then payloadAmount event "assets" else 0)
          + (if event.IsSavings "Accrued" then payloadAmount event "interest" else 0)
        = (if event.contractRole = "susdp-savings" ∧
              event.eventName ∈ ["Deposit", "Withdraw", "Accrued"] then statedChange event else 0)
          + if event.IsSavings "Withdraw" then payloadAmount event "assets" else 0 := by
    unfold ProtocolEventRow.IsSavings statedChange
    by_cases role : event.contractRole = "susdp-savings"
    · by_cases deposit : event.eventName = "Deposit"
      · simp [role, deposit]
      · by_cases withdraw : event.eventName = "Withdraw"
        · simp [role, withdraw]
        · simp [role, deposit, withdraw]
    · simp [role]
  have sums := congrArg List.sum (List.map_congr_left (l := events) fun event _ => each event)
  rw [List.sum_map_add, List.sum_map_add] at sums
  simp only [← sum_filter_map] at sums
  simp only [payloadAmount] at sums ⊢
  omega

/-- A transfer of the vault, as it is counted when it is direct. -/
theorem directValue_eq {vault : String} {event : ProtocolEventRow}
    (touches : payloadLower event.payload "to" = some vault ∨
      payloadLower event.payload "from" = some vault) :
    (directValue vault event).toOption.getD 0
      = balanceChange vault event + selfTransfer vault event := by
  have signed : (directValue vault event).toOption.getD 0
      = if payloadLower event.payload "to" = some vault then payloadAmount event "value"
        else -payloadAmount event "value" := by
    unfold directValue payloadAmount
    cases payloadNumeric event.payload "value" with
    | error => simp [Except.map, Except.toOption]
    | ok value => rfl
  rw [signed, balanceChange, selfTransfer]
  by_cases receiver : payloadLower event.payload "to" = some vault
  · simp only [receiver, if_true, true_and]
    omega
  · have sender := touches.resolve_left receiver
    simp [receiver, sender]

/-- The direct net is what the transfers without an event of the vault change, and once more
what they send from the vault to itself. -/
theorem readDirectUnderlyingNet_eq {db : Database} {adapter : SavingsChainAdapter}
    {fromBlock toBlock direct : ℤ}
    (read : readDirectUnderlyingNet db adapter fromBlock toBlock = .ok direct) :
    direct = (((db.vaultTransfers adapter fromBlock toBlock).filter
      fun event => ¬ db.HasVaultEvent event).map fun event =>
        balanceChange (toLowerCase adapter.susdp.address) event
          + selfTransfer (toLowerCase adapter.susdp.address) event).sum := by
  have filtered : ((db.eventsWithin adapter.chainId fromBlock toBlock).filter fun event =>
        (event.Transfers "usdp-token" "to" (toLowerCase adapter.susdp.address) ∨
          event.Transfers "usdp-token" "from" (toLowerCase adapter.susdp.address)) ∧
            ¬ db.HasVaultEvent event)
      = (db.vaultTransfers adapter fromBlock toBlock).filter fun event =>
          ¬ db.HasVaultEvent event := by
    rw [Database.vaultTransfers, List.filter_filter]
    refine List.filter_congr fun event _ => ?_
    rw [Bool.decide_and, Bool.and_comm]
  rw [sum_of_mapM read, filtered]
  refine congrArg List.sum (List.map_congr_left fun event mem => directValue_eq ?_)
  exact (mem_vaultTransfers (List.mem_filter.mp mem).1).2

/-! ## The accounts -/

/-- The transfers that accompany the events change the balance by what the events state. -/
theorem sum_balanceChange_matched {vault : String} (deployed : vault ≠ ZERO_ADDRESS)
    {events matched : List ProtocolEventRow}
    (accompanied : List.Forall₂ (Accompanies vault) events matched) :
    (matched.map (balanceChange vault)).sum = (events.map statedChange).sum := by
  induction accompanied with
  | nil => rfl
  | cons accompanies _ ih =>
      rw [List.map_cons, List.sum_cons, List.map_cons, List.sum_cons, ih,
        accompanies.balanceChange deployed]

/-- There is an event of the vault where one is accompanied. -/
theorem hasVaultEvent_matched {db : Database} {adapter : SavingsChainAdapter}
    {fromBlock toBlock : ℤ} {matched others : List ProtocolEventRow}
    (transfers : (db.vaultTransfers adapter fromBlock toBlock).Perm (matched ++ others))
    (accompanied : List.Forall₂ (Accompanies (toLowerCase adapter.susdp.address))
      (db.vaultEvents adapter fromBlock toBlock) matched) :
    ∀ transfer ∈ matched, db.HasVaultEvent transfer := by
  intro transfer mem
  obtain ⟨index, bound, rfl⟩ := List.getElem_of_mem mem
  have bound' : index < (db.vaultEvents adapter fromBlock toBlock).length :=
    accompanied.length_eq ▸ bound
  have accompanies := accompanied.get bound' bound
  obtain ⟨stored, event⟩ := List.mem_filter.mp (List.getElem_mem bound')
  obtain ⟨stored, within⟩ := List.mem_filter.mp stored
  have ofChain := (mem_vaultTransfers (transfers.mem_iff.mpr (List.mem_append_left _ mem))).1
  refine ⟨_, stored, (of_decide_eq_true within).1.trans ofChain.symm, accompanies.together.symm, ?_⟩
  exact of_decide_eq_true event

/-- By how much the accounts miss what the transfers change: the direct transfers of the vault to
itself are too much, and what comes with no event, in a transaction that has one, is missing. -/
theorem vault_gap {db : Database} {adapter : SavingsChainAdapter} {fromBlock toBlock : ℤ}
    {totals : EventTotals} {direct : ℤ} {matched others : List ProtocolEventRow}
    (deployed : toLowerCase adapter.susdp.address ≠ ZERO_ADDRESS)
    (transfers : (db.vaultTransfers adapter fromBlock toBlock).Perm (matched ++ others))
    (accompanied : List.Forall₂ (Accompanies (toLowerCase adapter.susdp.address))
      (db.vaultEvents adapter fromBlock toBlock) matched)
    (totalsRead : readEventTotals db adapter fromBlock toBlock = .ok totals)
    (directRead : readDirectUnderlyingNet db adapter fromBlock toBlock = .ok direct) :
    totals.depositedAssets - totals.withdrawnAssets + totals.accruedAssets + direct
        - ((db.vaultTransfers adapter fromBlock toBlock).map
            (balanceChange (toLowerCase adapter.susdp.address))).sum
      = ((others.filter fun event => ¬ db.HasVaultEvent event).map
            (selfTransfer (toLowerCase adapter.susdp.address))).sum
        - ((others.filter fun event => db.HasVaultEvent event).map
            (balanceChange (toLowerCase adapter.susdp.address))).sum := by
  have stated := readEventTotals_vault totalsRead
  have net := readDirectUnderlyingNet_eq directRead
  have together := hasVaultEvent_matched transfers accompanied
  rw [← sum_balanceChange_matched deployed accompanied] at stated
  -- no transfer that accompanies an event is direct
  have noneDirect : matched.filter (fun event => ¬ db.HasVaultEvent event) = [] :=
    List.filter_eq_nil_iff.mpr fun transfer mem => by simpa using together transfer mem
  rw [((transfers.filter _).map _).sum_eq, List.filter_append, noneDirect, List.nil_append,
    List.sum_map_add] at net
  rw [(transfers.map _).sum_eq, List.map_append, List.sum_append,
    ← List.sum_map_filter_add_sum_map_filter_not (fun event => db.HasVaultEvent event) _ others]
  omega

/-- What the check of the accounts compares, if the interval is covered. -/
theorem SuiteReadings.Of.underlyingAssets_difference {options : RunVerificationSuiteOptions}
    {db : VerificationDatabase} {readings : SuiteReadings} {start finish : BoundarySnapshotRow}
    (of : readings.Of options db) (complete : readings.coverage.complete = true)
    (boundaries : readBoundarySnapshots db.analytics options.adapter.chainId options.fromBlock
      options.toBlock = ⟨some start, some finish⟩) :
    CoreIdentity.underlyingAssets.difference (readings.coreInput options)
      = some (finish.susdpActualAssets - (start.susdpActualAssets
          + readings.eventTotals.depositedAssets - readings.eventTotals.withdrawnAssets
          + readings.eventTotals.accruedAssets + readings.directUnderlyingNet)) := by
  simp only [CoreIdentity.difference, SuiteReadings.coreInput, of.boundaries, boundaries,
    CoverageReport.guarding, complete, if_true, Option.map_some]
  rfl

/-- **The accounts of the vault.**  Let every event of the vault come with the transfer that it
is about, whatever else the vault sends or receives, and let the balances at the two ends differ
by what the transfers change.  The accounts are exact, and the check of them passes, if and only
if the vault's direct transfers to itself amount to the change made by the transfers that come
with no event, in transactions that have one. -/
theorem vaultAccounting_iff (viem : Viem) (options : RunVerificationSuiteOptions)
    (db : VerificationDatabase) (report : VerificationReport)
    (ran : runVerificationSuite viem options db = .ok report)
    (deployed : toLowerCase options.adapter.susdp.address ≠ ZERO_ADDRESS)
    (matched others : List ProtocolEventRow)
    (transfers : (db.analytics.index.vaultTransfers options.adapter options.fromBlock
      options.toBlock).Perm (matched ++ others))
    (accompanied : List.Forall₂ (Accompanies (toLowerCase options.adapter.susdp.address))
      (db.analytics.index.vaultEvents options.adapter options.fromBlock options.toBlock) matched)
    (covered : ∃ coverage, verifyCoverage db.analytics.index options.scope options.fromBlock
      options.toBlock options.adapter.chainId = .ok coverage ∧ coverage.complete = true)
    (start finish : BoundarySnapshotRow)
    (boundaries : readBoundarySnapshots db.analytics options.adapter.chainId options.fromBlock
      options.toBlock = ⟨some start, some finish⟩)
    (balances : (finish.susdpActualAssets : ℤ) = start.susdpActualAssets
      + ((db.analytics.index.vaultTransfers options.adapter options.fromBlock options.toBlock).map
          (balanceChange (toLowerCase options.adapter.susdp.address))).sum) :
    (∃ totals direct,
      readEventTotals db.analytics.index options.adapter options.fromBlock options.toBlock
        = .ok totals ∧
      readDirectUnderlyingNet db.analytics.index options.adapter options.fromBlock
        options.toBlock = .ok direct ∧
      (start.susdpActualAssets : ℤ) + totals.depositedAssets - totals.withdrawnAssets
        + totals.accruedAssets + direct = finish.susdpActualAssets ∧
      report.Judges "susdp_underlying_balance_accounting" .pass)
    ↔ ((others.filter fun event => ¬ db.analytics.index.HasVaultEvent event).map
          (selfTransfer (toLowerCase options.adapter.susdp.address))).sum
        = ((others.filter fun event => db.analytics.index.HasVaultEvent event).map
          (balanceChange (toLowerCase options.adapter.susdp.address))).sum := by
  obtain ⟨readings, of, judges⟩ := runVerificationSuite_judges ran
  have gap := vault_gap deployed transfers accompanied of.eventTotals of.directUnderlyingNet
  obtain ⟨coverage, verified, complete⟩ := covered
  obtain rfl : coverage = readings.coverage := Except.ok.inj (verified.symm.trans of.coverage)
  have difference := of.underlyingAssets_difference complete boundaries
  have judged : report.Judges "susdp_underlying_balance_accounting" .pass
      ↔ CoreIdentity.underlyingAssets.status (readings.coreInput options) = .pass :=
    judges .underlyingAssets .pass
  constructor
  · rintro ⟨totals, direct, totalsRead, directRead, exact, -⟩
    obtain rfl := Except.ok.inj (totalsRead.symm.trans of.eventTotals)
    obtain rfl := Except.ok.inj (directRead.symm.trans of.directUnderlyingNet)
    omega
  · intro balanced
    have exact : (start.susdpActualAssets : ℤ) + readings.eventTotals.depositedAssets
        - readings.eventTotals.withdrawnAssets + readings.eventTotals.accruedAssets
        + readings.directUnderlyingNet = finish.susdpActualAssets := by omega
    refine ⟨_, _, of.eventTotals, of.directUnderlyingNet, exact, ?_⟩
    rw [judged, CoreIdentity.status_eq_pass]
    refine ⟨_, difference, ?_⟩
    rw [exact, sub_self]
    decide

/-- The vaults of the registry are deployed. -/
theorem vault_deployed : ∀ adapter ∈ savingsChainAdapters,
    toLowerCase adapter.susdp.address ≠ ZERO_ADDRESS := by
  decide

/-! ## A deposit with a donation

A hundred USDp are deposited in block 2.  The vault is given some more there, in the same
transaction or in another. -/

/-- A transfer of USDp in block 2. -/
def usdpTransfer (sender receiver : String) (value : ℤ) : ProtocolEventRow :=
  { sampleTransfer 2 sender receiver with
    payload := .object [("from", .text sender), ("to", .text receiver), ("value", .decimal value)] }

/-- The deposit of a hundred by `alice`. -/
def depositEvent : ProtocolEventRow :=
  { sampleTransfer 2 alice alice with
    rawLogId := 1
    logIndex := 1
    contractRole := "susdp-savings"
    eventName := "Deposit"
    payload := .object [("assets", .decimal 100)] }

/-- The deposit, what else the vault receives, and what it has in the end. -/
def depositDatabase (others : List ProtocolEventRow) (susdpActualAssets : ℕ) :
    VerificationDatabase :=
  { shareDatabase with
    analytics :=
      { shareDatabase.analytics with
        index :=
          { shareIndex with
            protocolEvents :=
              depositEvent :: usdpTransfer alice sampleAdapter.susdp.address 100 :: others }
        savingsSnapshots := (SerialTable.empty.insert (idleSnapshot HYPEREVM_CHAIN_ID 1)).insert
          { idleSnapshot HYPEREVM_CHAIN_ID 2 with susdpActualAssets := susdpActualAssets } } }

/-- The two boundaries. -/
def depositBoundary (block : ℤ) (susdpActualAssets : ℕ) : BoundarySnapshotRow where
  blockNumber := block
  blockHash := s!"0x{block}"
  blockTimestamp := dateOfSeconds block
  usdpTotalSupply := 0
  susdpTotalSupply := 100
  susdpTotalAssets := 100
  susdpActualAssets := susdpActualAssets
  susdpRate := 0
  susdpLastUpdate := 0
  usdpImplementation := "0x"
  susdpImplementation := "0x"

/-- What `bob` gives the vault in the transaction of the deposit. -/
def donation : ProtocolEventRow :=
  { usdpTransfer bob sampleAdapter.susdp.address 5 with rawLogId := 2, logIndex := 2 }

/-- The donation in a transaction of its own. -/
def donationApart : ProtocolEventRow := { donation with transactionHash := "0xd0" }

theorem accompanies_deposit :
    Accompanies (toLowerCase sampleAdapter.susdp.address) depositEvent
      (usdpTransfer alice sampleAdapter.susdp.address 100) :=
  .deposit rfl rfl (by decide) (by decide) rfl

/-- What the suite makes of a deposit, with the donation apart from it and with it. -/
theorem reports_deposit :
    (∃ report, runVerificationSuite plainViem (intervalTo 2) (depositDatabase [donationApart] 205)
      = .ok report) ∧
    ∃ report, runVerificationSuite plainViem (intervalTo 2) (depositDatabase [donation] 205)
        = .ok report ∧
      report.Judges "susdp_underlying_balance_accounting" .fail := by
  have reported :
      (runVerificationSuite plainViem (intervalTo 2) (depositDatabase [donationApart] 205)).map
          (fun _ => ())
        = .ok () ∧
      (runVerificationSuite plainViem (intervalTo 2) (depositDatabase [donation] 205)).map
          (fun report => decide (report.Judges "susdp_underlying_balance_accounting" .fail))
        = .ok true := by
    decide +kernel
  obtain ⟨report, ran, -⟩ := map_eq_ok.mp reported.1
  obtain ⟨report', ran', judged⟩ := map_eq_ok.mp reported.2
  exact ⟨⟨report, ran⟩, report', ran', of_decide_eq_true judged⟩

/-- The boundaries of both. -/
theorem boundaries_deposit (other : ProtocolEventRow) :
    readBoundarySnapshots (depositDatabase [other] 205).analytics HYPEREVM_CHAIN_ID 1 2
      = ⟨some (depositBoundary 1 100), some (depositBoundary 2 205)⟩ := by
  have boundaries :
      readBoundarySnapshots (depositDatabase [donation] 205).analytics HYPEREVM_CHAIN_ID 1 2
        = ⟨some (depositBoundary 1 100), some (depositBoundary 2 205)⟩ := by
    decide +kernel
  exact boundaries

theorem covered_deposit : ∃ coverage, verifyCoverage shareIndex
    (lifetimeActivityScope sampleAdapter) 1 2 HYPEREVM_CHAIN_ID = .ok coverage ∧
    coverage.complete = true := indexed_intervalTo.1.2

/-- A deposit, and a donation in another transaction. -/
theorem vaultAccounting_deposit : ∃ report totals direct,
    runVerificationSuite plainViem (intervalTo 2) (depositDatabase [donationApart] 205)
        = .ok report ∧
      readEventTotals (depositDatabase [donationApart] 205).analytics.index sampleAdapter 1 2
        = .ok totals ∧
      readDirectUnderlyingNet (depositDatabase [donationApart] 205).analytics.index sampleAdapter
          1 2
        = .ok direct ∧
      (100 : ℤ) + totals.depositedAssets - totals.withdrawnAssets + totals.accruedAssets + direct
        = 205 ∧
      report.Judges "susdp_underlying_balance_accounting" .pass := by
  obtain ⟨⟨report, ran⟩, -⟩ := reports_deposit
  obtain ⟨totals, direct, totalsRead, directRead, exact, passes⟩ :=
    (vaultAccounting_iff plainViem (intervalTo 2) (depositDatabase [donationApart] 205) report ran
      (by decide) [usdpTransfer alice sampleAdapter.susdp.address 100] [donationApart] (.of_eq rfl)
      (.cons accompanies_deposit .nil) covered_deposit (depositBoundary 1 100)
      (depositBoundary 2 205) (boundaries_deposit donationApart) (by decide)).mpr (by decide)
  exact ⟨report, totals, direct, ran, totalsRead, directRead, exact, passes⟩

/-- The donation is in the transaction of a deposit, and is not counted. -/
theorem vaultAccounting_fails_donation :
    ¬ ∀ (viem : Viem) (options : RunVerificationSuiteOptions) (db : VerificationDatabase)
      (report : VerificationReport) (matched others : List ProtocolEventRow)
      (start finish : BoundarySnapshotRow),
        runVerificationSuite viem options db = .ok report →
        toLowerCase options.adapter.susdp.address ≠ ZERO_ADDRESS →
        (db.analytics.index.vaultTransfers options.adapter options.fromBlock
          options.toBlock).Perm (matched ++ others) →
        List.Forall₂ (Accompanies (toLowerCase options.adapter.susdp.address))
          (db.analytics.index.vaultEvents options.adapter options.fromBlock options.toBlock)
          matched →
        (∃ coverage, verifyCoverage db.analytics.index options.scope options.fromBlock
          options.toBlock options.adapter.chainId = .ok coverage ∧ coverage.complete = true) →
        readBoundarySnapshots db.analytics options.adapter.chainId options.fromBlock
          options.toBlock = ⟨some start, some finish⟩ →
        (finish.susdpActualAssets : ℤ) = start.susdpActualAssets
          + ((db.analytics.index.vaultTransfers options.adapter options.fromBlock
              options.toBlock).map
                (balanceChange (toLowerCase options.adapter.susdp.address))).sum →
        report.Judges "susdp_underlying_balance_accounting" .pass := by
  intro counted
  obtain ⟨-, report, ran, fails⟩ := reports_deposit
  have passes := counted plainViem (intervalTo 2) (depositDatabase [donation] 205) report
    [usdpTransfer alice sampleAdapter.susdp.address 100] [donation] (depositBoundary 1 100)
    (depositBoundary 2 205) ran (by decide) (.of_eq rfl)
    (.cons accompanies_deposit .nil) covered_deposit (boundaries_deposit donation) (by decide)
  obtain ⟨readings, -, judges⟩ := runVerificationSuite_judges ran
  have once : VerificationStatus.pass = .fail :=
    ((judges .underlyingAssets .pass).mp passes).symm.trans
      ((judges .underlyingAssets .fail).mp fails)
  cases once

end UsdpIndexer
