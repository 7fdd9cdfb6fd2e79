import UsdpIndexer.Analytics.ChainYield
import UsdpIndexer.Analytics.LogAnchors
import UsdpIndexer.Analytics.VaultSnapshots

/-!
# What the vault's tables hold

The captures and yields of `UsdpIndexer.Analytics.VaultSnapshots` beside all other calls, in any
order and with whatever failures.

* A snapshot is kept as it was first captured, and is always joined with one price of each token,
  of its own block (`vault_reads_sound`).  The latest one is what the readers show.
* A yield is the interest of the vault's logs between its two blocks, and the change of what was
  pending (`vault_yields_on_chain`).
-/

namespace UsdpIndexer

open Text SerialTable SelectFirst StableOrder FailingFold

/-! ## The machine -/

/-- A call that writes these tables, or one of the other analytics. -/
inductive VaultCall
  | analytics (input : TimedCall)
  | captureVaultSnapshot (wait : ℕ) (options : CaptureVaultSnapshotOptions)
      (fault : Option JsError)
  | calculateYieldForRange (wait : ℕ) (options : CalculateYieldOptions)

/-- Time passes. -/
def VaultDatabase.wait (milliseconds : ℕ) (db : VaultDatabase) : VaultDatabase :=
  { db with analytics := db.analytics.wait milliseconds }

/-- The database after a call, or as it was if the call has thrown. -/
def VaultDatabase.after {α : Type} (db : VaultDatabase)
    (result : Except JsError (α × VaultDatabase)) : VaultDatabase × List JsError :=
  match result with
  | .ok (_, db') => (db', [])
  | .error error => (db, [error])

/-- A call, with the error that it ends with. -/
def vaultStep (viem : Viem) (keccak256 : String → String) (call : VaultCall)
    (db : VaultDatabase) : VaultDatabase × List JsError :=
  match call with
  | .analytics input =>
      let (analytics, errors) := analyticsStep viem keccak256 input db.analytics
      ({ db with analytics }, errors)
  | .captureVaultSnapshot wait options fault =>
      (db.wait wait).after (UsdpIndexer.captureVaultSnapshot options fault (db.wait wait))
  | .calculateYieldForRange wait options =>
      (db.wait wait).after (UsdpIndexer.calculateYieldForRange options (db.wait wait))

/-- The database after a sequence of calls, from empty tables. -/
def vaultRun (viem : Viem) (keccak256 : String → String) (calls : List VaultCall) :
    VaultDatabase :=
  (Machine.run (vaultStep viem keccak256) calls .empty).1

/-! ## What a row states -/

/-- A price of the feed of a token, with its age at the time of its block. -/
structure PriceObservation.Sound (row : PriceObservation) : Prop where
  chain : row.chainId = HYPEREVM_CHAIN_ID
  source : row.source = "DIA"
  aged : ∃ time, row.observedAt = time * 1000 ∧ row.price.metadata.updatedAt ≤ time + 30 ∧
    row.price.metadata.ageSeconds = max 0 (time - row.price.metadata.updatedAt)
  maximumAge : row.price.metadata.maximumAgeSeconds = priceFeedMaximumAgeSeconds

/-- A price is stale exactly if it was too old at the time of its block. -/
theorem PriceObservation.Sound.stale_iff {row : PriceObservation} (sound : row.Sound) :
    row.price.stale = true ↔
      priceFeedMaximumAgeSeconds * 1000 < row.observedAt - row.price.metadata.updatedAt * 1000 := by
  obtain ⟨time, observed, -, age⟩ := sound.aged
  rw [row.price.stale_iff, sound.maximumAge, age, observed]
  unfold priceFeedMaximumAgeSeconds
  omega

/-- The number stands for a price of the token at this block. -/
def Prices (prices : SerialTable PriceObservation) (assetAddress : String) (blockNumber : ℤ)
    (id : ℕ) : Prop :=
  ∃ price, prices.find? id = some price ∧
    price.key = (HYPEREVM_CHAIN_ID, assetAddress, blockNumber, "DIA")

/-- The snapshot is of a stored block and has its prices; what is pending and whether it is valid
follow from what has been read. -/
structure VaultSnapshot.Sound (blocks : List BlockRow) (prices : SerialTable PriceObservation)
    (row : VaultSnapshot) : Prop where
  chain : row.chainId = HYPEREVM_CHAIN_ID
  block : ∃ block, KeyedTable.lookup BlockRow.key blocks (HYPEREVM_CHAIN_ID, row.blockNumber)
    = some block ∧ toLowerCase block.hash = toLowerCase row.blockHash
  pending : row.susdpTotalAssets = row.susdpActualAssets + row.susdpPendingYield
  status : row.snapshotStatus = vaultStatus row.usdpImplementation row.susdpImplementation
  usdp : Prices prices hyperevmUsdpAddress row.blockNumber row.usdpPriceObservationId
  susdp : Prices prices hyperevmSusdpAddress row.blockNumber row.susdpPriceObservationId

/-- Every price and every snapshot is sound. -/
structure VaultDatabase.Sound (db : VaultDatabase) : Prop where
  prices : ∀ row ∈ db.prices.values, row.Sound
  snapshots : ∀ row ∈ db.snapshots.values, row.Sound db.analytics.index.blocks db.prices

/-- Rows stay what they are; a price may be replaced by another one of the same block. -/
structure VaultDatabase.Grows (db db' : VaultDatabase) : Prop where
  blocks : KeyedTable.Extends BlockRow.key db.analytics.index.blocks db'.analytics.index.blocks
  prices : ∀ ⦃id : ℕ⦄ ⦃row : PriceObservation⦄, db.prices.find? id = some row →
    ∃ row', db'.prices.find? id = some row' ∧ row'.key = row.key
  snapshots : db.snapshots.Extends db'.snapshots
  yields : db.yields.Extends db'.yields

section Grows

variable {db db' db'' : VaultDatabase}

theorem VaultDatabase.Grows.refl (db : VaultDatabase) : db.Grows db where
  blocks := .refl _ _
  prices := fun _ row found => ⟨row, found, rfl⟩
  snapshots := .refl _
  yields := .refl _

theorem VaultDatabase.Grows.trans (first : db.Grows db') (second : db'.Grows db'') :
    db.Grows db'' where
  blocks := first.blocks.trans second.blocks
  prices := by
    intro id row found
    obtain ⟨row', found', same'⟩ := first.prices found
    obtain ⟨row'', found'', same''⟩ := second.prices found'
    exact ⟨row'', found'', same''.trans same'⟩
  snapshots := first.snapshots.trans second.snapshots
  yields := first.yields.trans second.yields

theorem VaultDatabase.grows_insertYield (db : VaultDatabase) (row : VaultYield) :
    db.Grows { db with yields := (db.yields.insertOrSelect VaultYield.key row).2 } where
  blocks := .refl _ _
  prices := fun _ row found => ⟨row, found, rfl⟩
  snapshots := .refl _
  yields := extends_insertOrSelect _ _ _

theorem VaultSnapshot.Sound.grows {row : VaultSnapshot}
    (sound : row.Sound db.analytics.index.blocks db.prices) (grows : db.Grows db') :
    row.Sound db'.analytics.index.blocks db'.prices where
  chain := sound.chain
  block := by
    obtain ⟨block, found, same⟩ := sound.block
    exact ⟨block, grows.blocks found, same⟩
  pending := sound.pending
  status := sound.status
  usdp := by
    obtain ⟨price, found, key⟩ := sound.usdp
    obtain ⟨price', found', same⟩ := grows.prices found
    exact ⟨price', found', same.trans key⟩
  susdp := by
    obtain ⟨price, found, key⟩ := sound.susdp
    obtain ⟨price', found', same⟩ := grows.prices found
    exact ⟨price', found', same.trans key⟩

end Grows

/-! ## A capture -/

theorem evaluatePriceRound_eq_ok {round : PriceRoundInput} {blockTimestamp maximumAgeSeconds : ℤ}
    {price : EvaluatedPriceRound}
    (ok : evaluatePriceRound round blockTimestamp maximumAgeSeconds = .ok price) :
    price.metadata.updatedAt ≤ blockTimestamp + 30 ∧
      price.metadata.ageSeconds = max 0 (blockTimestamp - price.metadata.updatedAt) ∧
      price.metadata.maximumAgeSeconds = maximumAgeSeconds := by
  unfold evaluatePriceRound at ok
  split at ok
  · cases ok
  · split at ok
    · cases ok
    · split at ok
      · cases ok
      · rename_i ahead
        obtain rfl := Except.ok.inj ok
        refine ⟨not_lt.mp ahead, ?_, rfl⟩
        dsimp only
        split <;> omega

/-- What is made of the answers about a block. -/
theorem evaluateVault_eq_ok {block : StoredBlock} {state : VaultStateRead} {reading : VaultReading}
    (ok : evaluateVault block state = .ok reading) :
    reading.block = block ∧
      reading.state.susdpTotalAssets = reading.state.susdpActualAssets + reading.pendingYield ∧
      evaluatePriceRound state.usdpPriceRound block.timestamp priceFeedMaximumAgeSeconds
        = .ok reading.usdpPrice ∧
      evaluatePriceRound state.susdpPriceRound block.timestamp priceFeedMaximumAgeSeconds
        = .ok reading.susdpPrice := by
  obtain ⟨pendingYield, pending, ok⟩ := bind_eq_ok.mp ok
  obtain ⟨usdpImplementation?, -, ok⟩ := bind_eq_ok.mp ok
  obtain ⟨susdpImplementation?, -, ok⟩ := bind_eq_ok.mp ok
  split at ok
  · obtain ⟨usdpPrice, usdp, ok⟩ := bind_eq_ok.mp ok
    obtain ⟨susdpPrice, susdp, ok⟩ := bind_eq_ok.mp ok
    obtain rfl := Except.ok.inj ok
    exact ⟨rfl, calculatePendingYield_eq_ok.mp pending, usdp, susdp⟩
  · cases ok

/-- The block of a reading is put in place, or is there already under the same hash. -/
theorem insertFinalizedBlock_stored {drift : String} {chainId : ℕ} {block : StoredBlock}
    {db db' : AnalyticsDatabase} (ok : insertFinalizedBlock drift chainId block db = .ok db') :
    ∃ stored,
      KeyedTable.lookup BlockRow.key db'.index.blocks (chainId, block.number) = some stored ∧
      toLowerCase stored.hash = toLowerCase block.hash := by
  obtain rfl := insertFinalizedBlock_eq_ok ok
  rw [KeyedTable.lookup_insertNew]
  cases found : KeyedTable.lookup BlockRow.key db.index.blocks (chainId, block.number) with
  | none =>
      refine ⟨blockRow chainId block, ?_, toLowerCase_toLowerCase _⟩
      rw [Option.none_or, KeyedTable.lookup]
      exact List.find?_cons_of_pos (decide_eq_true rfl)
  | some stored =>
      refine ⟨stored, rfl, ?_⟩
      unfold insertFinalizedBlock at ok
      simp only [found, Option.any_some] at ok
      split at ok
      · cases ok
      · rename_i agrees
        simpa using agrees

/-- A price replaces the one under its key. -/
theorem mergePrice_eq {stored row : PriceObservation}
    (same : stored.key = row.key) : mergePrice stored row = row := by
  obtain ⟨chain, asset, block, source⟩ : stored.chainId = row.chainId ∧
      stored.assetAddress = row.assetAddress ∧ stored.blockNumber = row.blockNumber ∧
      stored.source = row.source := by
    simpa [PriceObservation.key] using same
  simp [mergePrice, chain, asset, block, source]

theorem insertVaultSnapshot_eq_ok {row : VaultSnapshot} {db db' : VaultDatabase} {id : ℕ}
    (ok : insertVaultSnapshot row db = .ok (id, db')) :
    db' = { db with snapshots := (db.snapshots.insertOrSelect VaultSnapshot.key row).2 } ∧
      (db.snapshots.insertOrSelect VaultSnapshot.key row).1 = some id := by
  unfold insertVaultSnapshot at ok
  split at ok
  · cases ok
  · split at ok
    · rename_i selected
      cases ok
      rw [selected]
      exact ⟨rfl, rfl⟩
    · cases ok

/-- The tables after a capture that has been stored. -/
theorem storeVaultSnapshot_eq_ok {options : CaptureVaultSnapshotOptions} {reading : VaultReading}
    {db db' : VaultDatabase} {snapshotId : ℕ}
    (ok : storeVaultSnapshot options reading db = .ok (snapshotId, db')) :
    ∃ analytics manifestVersion calculationVersion,
      let usdp := insertPriceObservation db.prices
        (reading.priceObservation hyperevmUsdpAddress reading.usdpPrice calculationVersion)
      let susdp := insertPriceObservation usdp.2
        (reading.priceObservation hyperevmSusdpAddress reading.susdpPrice calculationVersion)
      let row := reading.snapshot usdp.1 susdp.1 manifestVersion calculationVersion
        db.analytics.clock
      insertFinalizedBlock s!"Block hash drift at snapshot block {reading.block.number}"
        HYPEREVM_CHAIN_ID reading.block db.analytics = .ok analytics ∧
      db' = { db with
        analytics := analytics
        prices := susdp.2
        snapshots := (db.snapshots.insertOrSelect VaultSnapshot.key row).2 } ∧
      (db.snapshots.insertOrSelect VaultSnapshot.key row).1 = some snapshotId := by
  obtain ⟨analytics, inserted, ok⟩ := bind_eq_ok.mp ok
  exact ⟨analytics, _, _, inserted, insertVaultSnapshot_eq_ok ok⟩

/-- A capture that succeeds has read the vault. -/
theorem captureVaultSnapshot_eq_ok {options : CaptureVaultSnapshotOptions}
    {fault : Option JsError} {db db' : VaultDatabase} {answer : ℕ × VaultReading}
    (ok : captureVaultSnapshot options fault db = .ok (answer, db')) :
    (∃ block state, evaluateVault block state = .ok answer.2) ∧
      storeVaultSnapshot options answer.2 db = .ok (answer.1, db') := by
  obtain ⟨reading, read, ok⟩ := bind_eq_ok.mp ok
  cases fault with
  | some error => cases ok
  | none =>
      obtain ⟨⟨snapshotId, stored⟩, storing, ok⟩ := bind_eq_ok.mp ok
      obtain ⟨rfl, rfl⟩ := Prod.mk.inj (Except.ok.inj ok)
      obtain ⟨head, -, read⟩ := bind_eq_ok.mp read
      dsimp only at read
      split at read
      · cases read
      · obtain ⟨rpcBlock, -, read⟩ := bind_eq_ok.mp read
        obtain ⟨block, -, read⟩ := bind_eq_ok.mp read
        obtain ⟨state, -, read⟩ := bind_eq_ok.mp read
        exact ⟨⟨block, state, read⟩, storing⟩

section Capture

variable {db db' : VaultDatabase} {prices : SerialTable PriceObservation}

theorem sound_priceObservation {reading : VaultReading} {assetAddress calculationVersion : String}
    {price : EvaluatedPriceRound} {round : PriceRoundInput}
    (evaluated : evaluatePriceRound round reading.block.timestamp priceFeedMaximumAgeSeconds
      = .ok price) :
    (reading.priceObservation assetAddress price calculationVersion).Sound := by
  obtain ⟨ahead, age, maximum⟩ := evaluatePriceRound_eq_ok evaluated
  exact ⟨rfl, rfl, ⟨_, rfl, ahead, age⟩, maximum⟩

/-- The other prices keep their numbers, and this one has one too. -/
theorem prices_insertPriceObservation (row : PriceObservation) :
    (insertPriceObservation prices row).2.find? (insertPriceObservation prices row).1 = some row ∧
      (∀ ⦃id : ℕ⦄ ⦃stored : PriceObservation⦄, prices.find? id = some stored →
        ∃ stored', (insertPriceObservation prices row).2.find? id = some stored' ∧
          stored'.key = stored.key) ∧
      ∀ other ∈ (insertPriceObservation prices row).2.values, other = row ∨
        other ∈ prices.values :=
  ⟨find?_upsert_replace (fun _ _ => mergePrice_eq) prices row,
    fun _ _ found => exists_find?_upsert_replace (fun _ _ => mergePrice_eq) found,
    fun _ mem => mem_values_upsert_replace (fun _ _ => mergePrice_eq) mem⟩

/-- **What a capture does**: nothing is changed but prices of its own block, and whatever it adds
is sound. -/
theorem VaultDatabase.Sound.captureVaultSnapshot (sound : db.Sound)
    {options : CaptureVaultSnapshotOptions} {fault : Option JsError} {answer : ℕ × VaultReading}
    (ok : UsdpIndexer.captureVaultSnapshot options fault db = .ok (answer, db')) :
    db'.Sound ∧ db.Grows db' := by
  obtain ⟨⟨block, state, evaluated⟩, stored⟩ := captureVaultSnapshot_eq_ok ok
  obtain ⟨rfl, pending, usdpEvaluated, susdpEvaluated⟩ := evaluateVault_eq_ok evaluated
  obtain ⟨analytics, manifestVersion, calculationVersion, inserted, rfl, -⟩ :=
    storeVaultSnapshot_eq_ok stored
  obtain ⟨usdpFound, usdpKept, usdpValues⟩ := @prices_insertPriceObservation db.prices
    (answer.2.priceObservation hyperevmUsdpAddress answer.2.usdpPrice calculationVersion)
  generalize insertPriceObservation db.prices (answer.2.priceObservation hyperevmUsdpAddress
    answer.2.usdpPrice calculationVersion) = usdp at usdpFound usdpKept usdpValues ⊢
  obtain ⟨susdpFound, susdpKept, susdpValues⟩ := @prices_insertPriceObservation usdp.2
    (answer.2.priceObservation hyperevmSusdpAddress answer.2.susdpPrice calculationVersion)
  generalize insertPriceObservation usdp.2 (answer.2.priceObservation hyperevmSusdpAddress
    answer.2.susdpPrice calculationVersion) = susdp at susdpFound susdpKept susdpValues ⊢
  have grows : db.Grows { db with
      analytics := analytics
      prices := susdp.2
      snapshots := (db.snapshots.insertOrSelect VaultSnapshot.key (answer.2.snapshot usdp.1 susdp.1
        manifestVersion calculationVersion db.analytics.clock)).2 } := by
    refine ⟨?_, fun id row found => ?_, extends_insertOrSelect _ _ _, .refl _⟩
    · obtain rfl := insertFinalizedBlock_eq_ok inserted
      exact KeyedTable.extends_insertNew _ _ _
    · obtain ⟨row', found', same'⟩ := usdpKept found
      obtain ⟨row'', found'', same''⟩ := susdpKept found'
      exact ⟨row'', found'', same''.trans same'⟩
  refine ⟨⟨fun row mem => ?_, fun row mem => ?_⟩, grows⟩
  · rcases susdpValues row mem with rfl | mem
    · exact sound_priceObservation susdpEvaluated
    · rcases usdpValues row mem with rfl | mem
      · exact sound_priceObservation usdpEvaluated
      · exact sound.prices row mem
  · rcases mem_values_insertOrSelect mem with old | rfl
    · exact (sound.snapshots row old).grows grows
    · obtain ⟨price, found, key⟩ := susdpKept usdpFound
      exact ⟨rfl, insertFinalizedBlock_stored inserted, pending, rfl, ⟨price, found, key⟩,
        ⟨_, susdpFound, rfl⟩⟩

end Capture

/-! ## A yield -/

/-- The row is the yield of the vault between two blocks, of snapshots that are valid. -/
structure VaultYield.OnChain (viem : Viem) (chains : ℕ → ChainLogs)
    (snapshots : SerialTable VaultSnapshot) (row : VaultYield) : Prop where
  chain : row.chainId = HYPEREVM_CHAIN_ID
  ordered : row.fromBlock < row.toBlock
  starts : ∃ start, snapshots.find? row.startSnapshotId = some start ∧
    start.blockNumber = row.fromBlock ∧ start.manifestVersion = row.manifestVersion ∧
    start.snapshotStatus ≠ .invalid ∧ start.susdpPendingYield = row.pendingYieldAtStart
  ends : ∃ finish, snapshots.find? row.endSnapshotId = some finish ∧
    finish.blockNumber = row.toBlock ∧ finish.manifestVersion = row.manifestVersion ∧
    finish.snapshotStatus ≠ .invalid ∧ finish.susdpPendingYield = row.pendingYieldAtEnd
  interest : ∃ logs, (chains HYPEREVM_CHAIN_ID).Lists HYPEREVM_CHAIN_ID vaultRoles
    (row.fromBlock + 1) row.toBlock logs ∧
    accruedInterestOf viem HYPEREVM_CHAIN_ID logs = .ok row.accruedInterest
  ypo : row.nativeYpo = row.accruedInterest + row.pendingYieldAtEnd - row.pendingYieldAtStart
  nonneg : 0 ≤ row.nativeYpo

/-- What is promised of a call: a chunk holds what its chain has. -/
def VaultCall.Exact (chains : ℕ → ChainLogs) (watched : Lane → List String) : VaultCall → Prop
  | .analytics input => input.call.Exact chains watched
  | _ => True

section Yield

variable {viem : Viem} {chains : ℕ → ChainLogs} {watched : Lane → List String}
  {db db' : VaultDatabase} {options : CalculateYieldOptions}

/-- Snapshots are not taken away. -/
theorem VaultYield.OnChain.extends {snapshots snapshots' : SerialTable VaultSnapshot}
    {row : VaultYield} (onChain : row.OnChain viem chains snapshots)
    (grows : snapshots.Extends snapshots') : row.OnChain viem chains snapshots' :=
  { onChain with
    starts := by
      obtain ⟨start, found, rest⟩ := onChain.starts
      exact ⟨start, grows found, rest⟩
    ends := by
      obtain ⟨finish, found, rest⟩ := onChain.ends
      exact ⟨finish, grows found, rest⟩ }

/-- Rows of the same range state the same interest, and differ by what was pending. -/
theorem VaultYield.OnChain.agree {snapshots snapshots' : SerialTable VaultSnapshot}
    {row row' : VaultYield} (onChain : row.OnChain viem chains snapshots)
    (onChain' : row'.OnChain viem chains snapshots') (same : row.key = row'.key) :
    row.accruedInterest = row'.accruedInterest ∧
      row.nativeYpo + (row'.pendingYieldAtEnd - row'.pendingYieldAtStart)
        = row'.nativeYpo + (row.pendingYieldAtEnd - row.pendingYieldAtStart) := by
  obtain ⟨-, start, finish, -⟩ : _ ∧ _ ∧ _ ∧ _ := by simpa [VaultYield.key] using same
  obtain ⟨logs, lists, read⟩ := onChain.interest
  obtain ⟨logs', lists', read'⟩ := onChain'.interest
  rw [← start, ← finish] at lists'
  have interest : row.accruedInterest = row'.accruedInterest :=
    Except.ok.inj ((accruedInterestOf_perm (lists'.perm lists) read).symm.trans read')
  have ypo := onChain.ypo
  have ypo' := onChain'.ypo
  exact ⟨interest, by omega⟩

/-- A boundary snapshot is stored, and of the block and the manifest that are asked for. -/
theorem CalculateYieldOptions.of_boundarySnapshot {snapshots : SerialTable VaultSnapshot}
    {block : ℤ} {row : ℕ × VaultSnapshot}
    (selected : options.boundarySnapshot snapshots block = some row) :
    snapshots.find? row.1 = some row.2 ∧ row.2.blockNumber = block ∧
      row.2.manifestVersion = options.manifestVersion := by
  have chosen := mem_of_mem_distinctOn (List.mem_of_find?_eq_some selected)
  obtain ⟨stored, wanted⟩ := List.mem_filter.mp chosen
  rw [decide_eq_true_eq] at wanted
  exact ⟨find?_eq_some_iff.mpr stored, by simpa using List.find?_some selected, wanted.2.2⟩

theorem insertVaultYield_eq_ok {row : VaultYield} {id : ℕ}
    (ok : insertVaultYield row db = .ok (id, db')) :
    db' = { db with yields := (db.yields.insertOrSelect VaultYield.key row).2 } ∧
      (db.yields.insertOrSelect VaultYield.key row).1 = some id := by
  unfold insertVaultYield at ok
  -- the two checks, and then the insert
  iterate 2
    split at ok
    · cases ok
  split at ok
  · rename_i selected
    cases ok
    rw [selected]
    exact ⟨rfl, rfl⟩
  · cases ok

/-- **What a calculation does**: nothing, or it answers a row and inserts it under its key. -/
theorem calculateYieldForRange_eq_ok {result : VaultYieldResult}
    (ok : calculateYieldForRange options db = .ok (result, db')) :
    (db' = db ∧ ∀ id coverage row, result ≠ .candidate id coverage row) ∨
      ∃ id coverage start finish accruedInterest nativeYpo,
        let row := options.row start finish accruedInterest nativeYpo db.analytics.clock
        result = .candidate id coverage row ∧
        options.fromBlock < options.toBlock ∧
        verifyCoverage db.analytics.index options.scope options.fromBlock options.toBlock
          HYPEREVM_CHAIN_ID = .ok coverage ∧ coverage.complete = true ∧
        options.boundarySnapshot db.snapshots options.fromBlock = some start ∧
        options.boundarySnapshot db.snapshots options.toBlock = some finish ∧
        (start.2.snapshotStatus ≠ .invalid ∧ finish.2.snapshotStatus ≠ .invalid) ∧
        sumAccruedInterest db.analytics.index HYPEREVM_CHAIN_ID options.fromBlock options.toBlock
          = .ok accruedInterest ∧
        calculateNativeYpo accruedInterest start.2.susdpPendingYield finish.2.susdpPendingYield
          = .ok nativeYpo ∧
        db' = { db with yields := (db.yields.insertOrSelect VaultYield.key row).2 } ∧
        (db.yields.insertOrSelect VaultYield.key row).1 = some id := by
  unfold calculateYieldForRange at ok
  split at ok
  · cases ok
  · rename_i ordered
    obtain ⟨coverage, verified, ok⟩ := bind_eq_ok.mp ok
    split at ok
    · cases ok
      exact .inl ⟨rfl, fun _ _ _ same => by cases same⟩
    · rename_i complete
      split at ok
      · rename_i start finish starts ends
        split at ok
        · cases ok
          exact .inl ⟨rfl, fun _ _ _ same => by cases same⟩
        · rename_i valid
          obtain ⟨accruedInterest, sum, ok⟩ := bind_eq_ok.mp ok
          obtain ⟨nativeYpo, ypo, ok⟩ := bind_eq_ok.mp ok
          obtain ⟨⟨id, stored⟩, inserted, ok⟩ := bind_eq_ok.mp ok
          cases ok
          exact .inr ⟨id, coverage, start, finish, accruedInterest, nativeYpo, rfl,
            not_le.mp ordered, verified, by simpa using complete, starts, ends, not_or.mp valid,
            sum, ypo, insertVaultYield_eq_ok inserted⟩
      · cases ok
        exact .inl ⟨rfl, fun _ _ _ same => by cases same⟩

/-- **A row that is answered is the yield of the chain.** -/
theorem YieldsOnChain.calculateYieldForRange
    (onChain : YieldsOnChain viem chains watched db.analytics)
    (watches : WatchesVaults watched) {id : ℕ} {coverage : CoverageReport} {row : VaultYield}
    (ok : UsdpIndexer.calculateYieldForRange options db = .ok (.candidate id coverage row, db')) :
    row.OnChain viem chains db.snapshots ∧
      db' = { db with yields := (db.yields.insertOrSelect VaultYield.key row).2 } ∧
      (db.yields.insertOrSelect VaultYield.key row).1 = some id := by
  rcases calculateYieldForRange_eq_ok ok with ⟨-, other⟩ |
    ⟨id, coverage, start, finish, accruedInterest, nativeYpo, same, ordered, verified, complete,
      starts, ends, valid, sum, ypo, stored⟩
  · exact absurd rfl (other id coverage row)
  · obtain ⟨rfl, rfl, rfl⟩ := VaultYieldResult.candidate.inj same
    obtain ⟨startFound, startBlock, startManifest⟩ :=
      CalculateYieldOptions.of_boundarySnapshot starts
    obtain ⟨endFound, endBlock, endManifest⟩ := CalculateYieldOptions.of_boundarySnapshot ends
    obtain ⟨nativeYpo, nonneg⟩ := calculateNativeYpo_eq_ok.mp ypo
    have covered := onChain.index.covered_of_complete verified complete
    refine ⟨?_, stored⟩
    exact
      { chain := rfl
        ordered := ordered
        starts := ⟨start.2, startFound, startBlock, startManifest, valid.1, rfl⟩
        ends := ⟨finish.2, endFound, endBlock, endManifest, valid.2, rfl⟩
        interest := @StoreInvariant.sumAccruedInterest_eq_ok _ _ _ _ onChain.index.store
          ⟨HYPEREVM_CHAIN_ID, options.scope⟩ _ _ (watches _)
          (fun block lower upper => covered block lower.le upper) _ sum
        ypo := nativeYpo
        nonneg := nonneg }

end Yield

/-! ## All calls -/

/-- No call of the analytics changes a block that is stored. -/
theorem blocks_analyticsStep {viem : Viem} {keccak256 : String → String} (input : TimedCall)
    (db : AnalyticsDatabase) : KeyedTable.Extends BlockRow.key db.index.blocks
      (analyticsStep viem keccak256 input db).1.index.blocks := by
  by_cases isChunk : ∃ fault chunk counters, input.call = .persistChunk fault chunk counters
  · obtain ⟨fault, chunk, counters, isChunk⟩ := isChunk
    rw [analyticsStep, isChunk, AnalyticsCall.perform]
    cases outcome : (persistChunk viem fault chunk db.index counters).result with
    | error error =>
        simp only [AnalyticsDatabase.wait, outcome]
        exact .refl _ _
    | ok done =>
        simp only [AnalyticsDatabase.wait, outcome]
        obtain ⟨logs, -, -, -, written⟩ := persistChunk_committed outcome
        show KeyedTable.Extends _ _
          (persistChunk viem fault chunk db.index counters).database.blocks
        rw [written]
        exact KeyedTable.extends_insertNew BlockRow.key db.index.blocks chunk.blockRows
  · rcases analyticsStep_effect input db with effect | idle
    · exact (logs_of_effect effect fun fault chunk counters same =>
        isChunk ⟨fault, chunk, counters, same⟩).2
    · rw [idle]
      exact .refl _ _

section Run

variable {viem : Viem} {keccak256 : String → String} {chains : ℕ → ChainLogs}
  {watched : Lane → List String} {db db' : VaultDatabase}

theorem VaultDatabase.Sound.empty : VaultDatabase.empty.Sound where
  prices := fun _ mem => absurd mem List.not_mem_nil
  snapshots := fun _ mem => absurd mem List.not_mem_nil

/-- Rows that are not touched stay sound. -/
theorem VaultDatabase.Sound.of_grows (sound : db.Sound) (grows : db.Grows db')
    (prices : db'.prices = db.prices) (snapshots : db'.snapshots = db.snapshots) : db'.Sound where
  prices := by
    rw [prices]
    exact sound.prices
  snapshots := by
    rw [snapshots]
    exact fun row mem => (sound.snapshots row mem).grows grows

/-- **Everything that a call can do**: what the analytics do, nothing but wait, or what a capture
or a calculation does after its wait. -/
theorem vaultStep_cases (call : VaultCall) (db : VaultDatabase) :
    (∃ input, call = .analytics input ∧ (vaultStep viem keccak256 call db).1
      = { db with analytics := (analyticsStep viem keccak256 input db.analytics).1 }) ∨
    (∃ wait, (vaultStep viem keccak256 call db).1 = db.wait wait) ∨
    (∃ wait options fault answer, UsdpIndexer.captureVaultSnapshot options fault (db.wait wait)
      = .ok (answer, (vaultStep viem keccak256 call db).1)) ∨
    ∃ wait options result, UsdpIndexer.calculateYieldForRange options (db.wait wait)
      = .ok (result, (vaultStep viem keccak256 call db).1) := by
  cases call with
  | analytics input => exact .inl ⟨input, rfl, rfl⟩
  | captureVaultSnapshot wait options fault =>
      cases captured : UsdpIndexer.captureVaultSnapshot options fault (db.wait wait) with
      | error error =>
          refine .inr (.inl ⟨wait, ?_⟩)
          rw [vaultStep, captured, VaultDatabase.after]
      | ok answer =>
          refine .inr (.inr (.inl ⟨wait, options, fault, answer.1, ?_⟩))
          rw [vaultStep, captured, VaultDatabase.after]
  | calculateYieldForRange wait options =>
      cases calculated : UsdpIndexer.calculateYieldForRange options (db.wait wait) with
      | error error =>
          refine .inr (.inl ⟨wait, ?_⟩)
          rw [vaultStep, calculated, VaultDatabase.after]
      | ok answer =>
          refine .inr (.inr (.inr ⟨wait, options, answer.1, ?_⟩))
          rw [vaultStep, calculated, VaultDatabase.after]

/-- **Every call keeps the tables sound** and takes nothing away. -/
theorem VaultDatabase.Sound.step (sound : db.Sound) (call : VaultCall) :
    (vaultStep viem keccak256 call db).1.Sound ∧ db.Grows (vaultStep viem keccak256 call db).1 := by
  have waited (wait : ℕ) : (db.wait wait).Sound ∧ db.Grows (db.wait wait) :=
    ⟨⟨sound.prices, sound.snapshots⟩, ⟨.refl _ _, fun _ row found => ⟨row, found, rfl⟩, .refl _,
      .refl _⟩⟩
  rcases vaultStep_cases call db with ⟨input, -, after⟩ | ⟨wait, after⟩ |
    ⟨wait, options, fault, answer, captured⟩ | ⟨wait, options, result, calculated⟩
  · rw [after]
    have grows : db.Grows
        { db with analytics := (analyticsStep viem keccak256 input db.analytics).1 } :=
      ⟨blocks_analyticsStep input db.analytics, fun _ row found => ⟨row, found, rfl⟩, .refl _,
        .refl _⟩
    exact ⟨sound.of_grows grows rfl rfl, grows⟩
  · rw [after]
    exact waited wait
  · obtain ⟨sound', grows⟩ := (waited wait).1.captureVaultSnapshot captured
    exact ⟨sound', (waited wait).2.trans grows⟩
  · rcases calculateYieldForRange_eq_ok calculated with ⟨after, -⟩ |
      ⟨_, _, _, _, _, _, _, _, _, _, _, _, _, _, _, after, _⟩
    · rw [after]
      exact waited wait
    · rw [after]
      have grows := (db.wait wait).grows_insertYield
      exact ⟨(waited wait).1.of_grows (grows _) rfl rfl, (waited wait).2.trans (grows _)⟩

theorem sound_vaultRun (calls : List VaultCall) : (vaultRun viem keccak256 calls).Sound :=
  Machine.run_invariant (fun (db : VaultDatabase) _ => db.Sound)
    (fun call _ _ sound => (sound.step call).1) calls .empty

/-- Later calls take nothing away. -/
theorem grows_vaultRun (calls later : List VaultCall) :
    (vaultRun viem keccak256 calls).Grows (vaultRun viem keccak256 (calls ++ later)) := by
  have grows : (vaultRun viem keccak256 calls).Grows
      (Machine.run (vaultStep viem keccak256) later (vaultRun viem keccak256 calls)).1 :=
    (Machine.run_invariant
      (fun (db : VaultDatabase) _ => db.Sound ∧ (vaultRun viem keccak256 calls).Grows db)
      (fun call _ _ holds => ⟨(holds.1.step call).1, holds.2.trans (holds.1.step call).2⟩) later
      ⟨sound_vaultRun calls, .refl _⟩).2
  have split : vaultRun viem keccak256 (calls ++ later)
      = (Machine.run (vaultStep viem keccak256) later (vaultRun viem keccak256 calls)).1 := by
    unfold vaultRun
    rw [Machine.run_append]
  rw [split]
  exact grows

/-- The index belongs to the chains, and so do the yields of the vault. -/
structure VaultDatabase.OnChain (viem : Viem) (chains : ℕ → ChainLogs)
    (watched : Lane → List String) (db : VaultDatabase) : Prop where
  analytics : YieldsOnChain viem chains watched db.analytics
  rows : ∀ row ∈ db.yields.values, row.OnChain viem chains db.snapshots

theorem VaultDatabase.OnChain.empty : VaultDatabase.OnChain viem chains watched .empty where
  analytics := .empty
  rows := fun _ mem => absurd mem List.not_mem_nil

/-- **Every call keeps the yields of the vault on the chain.** -/
theorem VaultDatabase.OnChain.step (onChain : db.OnChain viem chains watched)
    (watches : WatchesVaults watched) {call : VaultCall} (fetched : call.Exact chains watched) :
    (vaultStep viem keccak256 call db).1.OnChain viem chains watched := by
  have waited (wait : ℕ) : (db.wait wait).OnChain viem chains watched :=
    ⟨⟨onChain.analytics.index, onChain.analytics.rows⟩, onChain.rows⟩
  rcases vaultStep_cases call db with ⟨input, rfl, after⟩ | ⟨wait, after⟩ |
    ⟨wait, options, fault, answer, captured⟩ | ⟨wait, options, result, calculated⟩
  · rw [after]
    exact ⟨onChain.analytics.step watches fetched, onChain.rows⟩
  · rw [after]
    exact waited wait
  · obtain ⟨-, stored⟩ := captureVaultSnapshot_eq_ok captured
    obtain ⟨analytics, _, _, inserted, after, -⟩ := storeVaultSnapshot_eq_ok stored
    obtain rfl := insertFinalizedBlock_eq_ok inserted
    rw [after]
    -- a block more, and a snapshot; no yield names it yet
    exact ⟨⟨onChain.analytics.index.of_eq _ rfl rfl rfl rfl, onChain.analytics.rows⟩,
      fun row mem => (onChain.rows row mem).extends (extends_insertOrSelect _ _ _)⟩
  · rcases calculateYieldForRange_eq_ok calculated with ⟨after, -⟩ |
      ⟨_, _, _, _, _, _, rfl, -⟩
    · rw [after]
      exact waited wait
    · obtain ⟨own, after, -⟩ := (waited wait).analytics.calculateYieldForRange watches calculated
      rw [after]
      refine ⟨(waited wait).analytics, fun row mem => ?_⟩
      rcases mem_values_insertOrSelect mem with old | rfl
      · exact onChain.rows row old
      · exact own

theorem onChain_vaultRun (watches : WatchesVaults watched) {calls : List VaultCall}
    (fetched : ∀ call ∈ calls, call.Exact chains watched) :
    (vaultRun viem keccak256 calls).OnChain viem chains watched := by
  have along : Machine.Along (vaultStep viem keccak256)
      (fun call _ => call.Exact chains watched) calls .empty := Machine.along_of_forall fetched
  refine Machine.run_invariant_along
    (fun (db : VaultDatabase) _ => db.OnChain viem chains watched) ?_ calls along .empty
  intro call db _ fetched onChain
  exact onChain.step watches fetched

end Run

/-! ## What is shown -/

/-- A snapshot that is shown: it is stored, no other one is of a later block, or newer and of the
same block, and its prices are those of its tokens at its block. -/
structure VaultSnapshotJoin.Sound (db : VaultDatabase) (shown : VaultSnapshotJoin) : Prop where
  stored : shown.snapshot ∈ db.snapshots.values
  latest : ∀ row ∈ db.snapshots.values, toLex (row.blockNumber, row.createdAt)
    ≤ toLex (shown.snapshot.blockNumber, shown.snapshot.createdAt)
  snapshot : shown.snapshot.Sound db.analytics.index.blocks db.prices
  usdp : shown.usdp.Sound ∧ shown.usdp.assetAddress = hyperevmUsdpAddress ∧
    shown.usdp.blockNumber = shown.snapshot.blockNumber
  susdp : shown.susdp.Sound ∧ shown.susdp.assetAddress = hyperevmSusdpAddress ∧
    shown.susdp.blockNumber = shown.snapshot.blockNumber

/-- `readRates` and `readPrices` answer about this snapshot, and a price is called stale by its age
at its block. -/
def VaultSnapshotJoin.ReadAlike (db : VaultDatabase) (shown : VaultSnapshotJoin) : Prop :=
  (∃ rates, readRates db = some rates ∧ rates.status = shown.snapshot.snapshotStatus ∧
    rates.blockNumber = shown.snapshot.blockNumber) ∧
  ∃ prices, readPrices db = some prices ∧ prices.status = shown.snapshot.snapshotStatus ∧
    prices.blockNumber = shown.snapshot.blockNumber ∧
    (prices.usdp.stale = true ↔ priceFeedMaximumAgeSeconds * 1000
      < shown.usdp.observedAt - prices.usdp.metadata.updatedAt * 1000) ∧
    (prices.susdp.stale = true ↔ priceFeedMaximumAgeSeconds * 1000
      < shown.susdp.observedAt - prices.susdp.metadata.updatedAt * 1000)

section Shown

variable {db : VaultDatabase}

/-- A stored snapshot finds its two prices. -/
theorem VaultDatabase.Sound.joinPrices (sound : db.Sound) {row : VaultSnapshot}
    (mem : row ∈ db.snapshots.values) :
    ∃ joined, db.joinPrices row = some joined ∧ joined.snapshot = row := by
  obtain ⟨usdp, usdpFound, -⟩ := (sound.snapshots row mem).usdp
  obtain ⟨susdp, susdpFound, -⟩ := (sound.snapshots row mem).susdp
  exact ⟨⟨row, usdp, susdp⟩, by rw [VaultDatabase.joinPrices, usdpFound, susdpFound]; rfl, rfl⟩

/-- The price that a number stands for. -/
theorem VaultDatabase.Sound.of_prices (sound : db.Sound) {assetAddress : String} {blockNumber : ℤ}
    {id : ℕ} {price : PriceObservation} (prices : Prices db.prices assetAddress blockNumber id)
    (found : db.prices.find? id = some price) :
    price.Sound ∧ price.assetAddress = assetAddress ∧ price.blockNumber = blockNumber := by
  obtain ⟨price', found', key⟩ := prices
  obtain rfl := Option.some.inj (found.symm.trans found')
  obtain ⟨-, asset, block, -⟩ : _ ∧ _ ∧ _ ∧ _ := by
    simpa [PriceObservation.key] using key
  exact ⟨sound.prices _ (mem_values_of_find? found), asset, block⟩

/-- The rows that are joined. -/
theorem VaultDatabase.mem_joins_iff {joined : VaultSnapshotJoin} :
    joined ∈ (db.snapshots.values.filter (·.chainId = HYPEREVM_CHAIN_ID)).filterMap db.joinPrices ↔
      (joined.snapshot ∈ db.snapshots.values ∧ joined.snapshot.chainId = HYPEREVM_CHAIN_ID) ∧
        db.prices.find? joined.snapshot.usdpPriceObservationId = some joined.usdp ∧
        db.prices.find? joined.snapshot.susdpPriceObservationId = some joined.susdp := by
  rw [List.mem_filterMap]
  constructor
  · rintro ⟨row, mem, join⟩
    obtain ⟨up, usdp, join⟩ := Option.bind_eq_some_iff.mp join
    obtain ⟨sp, susdp, join⟩ := Option.bind_eq_some_iff.mp join
    obtain rfl := Option.some.inj join
    obtain ⟨stored, own⟩ := List.mem_filter.mp mem
    exact ⟨⟨stored, of_decide_eq_true own⟩, usdp, susdp⟩
  · rintro ⟨⟨stored, own⟩, usdp, susdp⟩
    refine ⟨joined.snapshot, List.mem_filter.mpr ⟨stored, decide_eq_true own⟩, ?_⟩
    rw [VaultDatabase.joinPrices, usdp, susdp]
    rfl

/-- **What is shown is sound**, and nothing is hidden: if there is a snapshot, one is shown. -/
theorem VaultDatabase.Sound.latestSnapshot (sound : db.Sound) :
    (db.latestSnapshot = none ↔ db.snapshots.values = []) ∧
      ∀ shown, db.latestSnapshot = some shown → shown.Sound db := by
  have joins {row : VaultSnapshot} (mem : row ∈ db.snapshots.values) : ∃ joined,
      joined ∈ (db.snapshots.values.filter (·.chainId = HYPEREVM_CHAIN_ID)).filterMap
        db.joinPrices ∧ joined.snapshot = row := by
    obtain ⟨joined, join, rfl⟩ := sound.joinPrices mem
    exact ⟨joined, List.mem_filterMap.mpr ⟨_, List.mem_filter.mpr
      ⟨mem, decide_eq_true (sound.snapshots _ mem).chain⟩, join⟩, rfl⟩
  constructor
  · rw [VaultDatabase.latestSnapshot, first_eq_none_iff, List.eq_nil_iff_forall_not_mem,
      List.eq_nil_iff_forall_not_mem]
    constructor
    · intro none row mem
      obtain ⟨joined, join, -⟩ := joins mem
      exact none joined join
    · intro none joined join
      exact none _ (VaultDatabase.mem_joins_iff.mp join).1.1
  · intro shown selected
    obtain ⟨⟨stored, -⟩, usdp, susdp⟩ := VaultDatabase.mem_joins_iff.mp (mem_of_first selected)
    have own := sound.snapshots _ stored
    refine ⟨stored, fun row mem => ?_, own, ?_, ?_⟩
    · obtain ⟨joined, join, rfl⟩ := joins mem
      exact toLex_le_of_first (fun row : VaultSnapshotJoin => row.snapshot.blockNumber)
        (·.snapshot.createdAt) selected join
    · exact sound.of_prices own.usdp usdp
    · exact sound.of_prices own.susdp susdp

/-- The yield that is shown reaches furthest. -/
theorem readLatestYield_spec (chain : ∀ row ∈ db.yields.values, row.chainId = HYPEREVM_CHAIN_ID) :
    (readLatestYield db = none ↔ db.yields.values = []) ∧
      ∀ shown, readLatestYield db = some shown → shown ∈ db.yields.values ∧
        ∀ row ∈ db.yields.values,
          toLex (row.toBlock, row.createdAt) ≤ toLex (shown.toBlock, shown.createdAt) := by
  have all : db.yields.values.filter (·.chainId = HYPEREVM_CHAIN_ID) = db.yields.values :=
    List.filter_eq_self.mpr fun row mem => decide_eq_true (chain row mem)
  rw [readLatestYield, all]
  exact ⟨first_eq_none_iff, fun shown selected =>
    ⟨mem_of_first selected, fun row mem => toLex_le_of_first _ _ selected mem⟩⟩

/-- A snapshot is shown by all three readers, and its prices are called stale by their age. -/
theorem VaultSnapshotJoin.Sound.readAlike {shown : VaultSnapshotJoin} (sound : shown.Sound db)
    (selected : db.latestSnapshot = some shown) : shown.ReadAlike db := by
  constructor
  · rw [readRates, selected]
    exact ⟨_, rfl, rfl, rfl⟩
  · rw [readPrices, selected]
    exact ⟨_, rfl, rfl, rfl, sound.usdp.1.stale_iff, sound.susdp.1.stale_iff⟩

end Shown

/-- **Readers never go back.**  After any calls, in any order and with whatever failures, a
snapshot is shown as soon as there is one, it is the latest, and the readers agree on it.  Whatever
is called later, it stays as it was captured, and nothing older is shown. -/
theorem vault_reads_sound (viem : Viem) (keccak256 : String → String) (calls : List VaultCall) :
    let db := vaultRun viem keccak256 calls
    (readState db = none ↔ db.snapshots.values = []) ∧
      ∀ status shown, readState db = some (status, shown) →
        status = vaultStatus shown.snapshot.usdpImplementation
          shown.snapshot.susdpImplementation ∧
        shown.Sound db ∧ shown.ReadAlike db ∧
        ∀ later, ∃ status' shown',
          readState (vaultRun viem keccak256 (calls ++ later)) = some (status', shown') ∧
          shown.snapshot ∈ (vaultRun viem keccak256 (calls ++ later)).snapshots.values ∧
          toLex (shown.snapshot.blockNumber, shown.snapshot.createdAt)
            ≤ toLex (shown'.snapshot.blockNumber, shown'.snapshot.createdAt) := by
  dsimp only
  have soundAfter (calls : List VaultCall) : (vaultRun viem keccak256 calls).Sound :=
    sound_vaultRun calls
  obtain ⟨none_iff, sound⟩ := (soundAfter calls).latestSnapshot
  refine ⟨?_, fun status shown read => ?_⟩
  · rw [readState, Option.map_eq_none_iff]
    exact none_iff
  · obtain ⟨row, selected, pair⟩ := Option.map_eq_some_iff.mp read
    obtain ⟨rfl, rfl⟩ := Prod.mk.inj pair
    have own := sound row selected
    refine ⟨own.snapshot.status, own, own.readAlike selected, fun later => ?_⟩
    -- the snapshot is still there, so that something is shown that is no older
    obtain ⟨⟨id, snapshot⟩, stored, same⟩ := List.mem_map.mp own.stored
    have kept := mem_values_of_find?
      ((grows_vaultRun calls later).snapshots (find?_eq_some_iff.mpr stored))
    rw [show snapshot = row.snapshot from same] at kept
    obtain ⟨none_iff', sound'⟩ := (soundAfter (calls ++ later)).latestSnapshot
    cases selected' : (vaultRun viem keccak256 (calls ++ later)).latestSnapshot with
    | none =>
        rw [none_iff'.mp selected'] at kept
        cases kept
    | some row' =>
        exact ⟨_, row', congrArg (Option.map _) selected', kept,
          (sound' row' selected').latest _ kept⟩

/-- **Yields of the vault are those of the chain.**  Every lane watches the vault of its chain, and
every chunk holds exactly what the chain has for its lane.  Then after any calls, in any order
and with whatever failures, every stored row is the interest of the chain's `Accrued` logs
between its two blocks and the change of what was pending, and the one that reaches furthest is
shown.  What a calculation answers is on the chain as well; if its row has been there before, it
has the same interest, and the yields differ by what was pending. -/
theorem vault_yields_on_chain (viem : Viem) (keccak256 : String → String) (chains : ℕ → ChainLogs)
    (watched : Lane → List String) (watches : WatchesVaults watched) (calls : List VaultCall)
    (fetched : ∀ call ∈ calls, call.Exact chains watched) :
    let db := vaultRun viem keccak256 calls
    (∀ row ∈ db.yields.values, row.OnChain viem chains db.snapshots) ∧
      ((readLatestYield db = none ↔ db.yields.values = []) ∧
        ∀ shown, readLatestYield db = some shown → shown ∈ db.yields.values ∧
          ∀ row ∈ db.yields.values,
            toLex (row.toBlock, row.createdAt) ≤ toLex (shown.toBlock, shown.createdAt)) ∧
      ∀ options id coverage answered db',
        calculateYieldForRange options db = .ok (.candidate id coverage answered, db') →
        answered.OnChain viem chains db.snapshots ∧
        ∃ stored, db'.yields.find? id = some stored ∧ stored.key = answered.key ∧
          stored.accruedInterest = answered.accruedInterest ∧
          stored.nativeYpo + (answered.pendingYieldAtEnd - answered.pendingYieldAtStart)
            = answered.nativeYpo + (stored.pendingYieldAtEnd - stored.pendingYieldAtStart) := by
  dsimp only
  have onChain : (vaultRun viem keccak256 calls).OnChain viem chains watched :=
    onChain_vaultRun watches fetched
  generalize vaultRun viem keccak256 calls = db at onChain ⊢
  refine ⟨onChain.rows, readLatestYield_spec fun row mem => (onChain.rows row mem).chain, ?_⟩
  intro options id coverage answered db' calculated
  obtain ⟨own, rfl, selected⟩ := onChain.analytics.calculateYieldForRange watches calculated
  obtain ⟨id', stored, selected', found, same, origin⟩ :=
    find?_insertOrSelect VaultYield.key db.yields answered
  obtain rfl : id' = id := Option.some.inj (selected'.symm.trans selected)
  have storedOnChain : stored.OnChain viem chains db.snapshots := by
    rcases origin with rfl | old
    · exact own
    · exact onChain.rows stored (mem_values_of_find? old)
  exact ⟨own, stored, found, same, storedOnChain.agree own same⟩

/-! ### Ten blocks of the vault -/

/-- An accrual of the vault. -/
def vaultInterestLog : MinedLog := { tenInterestLog with address := hyperevmSusdpAddress }

/-- Its ten blocks. -/
def vaultInterestChunk : Chunk :=
  { tenInterestChunk with
    chainId := HYPEREVM_CHAIN_ID
    scope := "parallel-usdp-hyperevm-10-20"
    logs := [vaultInterestLog.toLog] }

/-- A round at one dollar. -/
def sampleRound : PriceRoundInput := ⟨1, 100000000, 1, 1, 1, 8, "USDp/USD"⟩

/-- An endpoint of the vault; the implementations are those the protocol expects. -/
def sampleVaultClient (totalAssets actualAssets : ℕ) : VaultClient where
  getBlockNumber := .ok 100
  getBlock := fun number => .ok (sampleBlock number)
  readVaultState := fun _ => .ok {
    usdpTotalSupply := 1000
    susdpTotalAssets := totalAssets
    susdpActualAssets := actualAssets
    susdpTotalSupply := 100
    susdpSharePrice := 1
    susdpRate := 0
    susdpLastUpdate := 0
    susdpEstimatedApr := 0
    susdpMaxRate := 0
    susdpPauseState := 0
    usdpImplementationSlot := some hyperevmUsdpImplementation
    susdpImplementationSlot := some hyperevmSusdpImplementation
    usdpPriceRound := sampleRound
    susdpPriceRound := sampleRound }

/-- The vault has three pending at the start, and five at the end. -/
def vaultCalls : List VaultCall :=
  [.analytics ⟨0, .persistChunk none vaultInterestChunk blankCounters⟩,
    .captureVaultSnapshot 0 ⟨sampleVaultClient 103 100, 0, some 10, none, none⟩ none,
    .captureVaultSnapshot 0 ⟨sampleVaultClient 115 110, 0, some 20, none, none⟩ none,
    .calculateYieldForRange 0 ⟨vaultInterestChunk.scope, 10, 20, none, none⟩]

theorem exact_vaultInterestChunk :
    vaultInterestChunk.Exact (fun _ => .single vaultInterestLog) fun _ => vaultAddresses := by
  have hashes : sampleHash 15 ≠ "" ∧ sampleHash 1 ≠ "" := by decide +kernel
  have mined : vaultInterestLog.toLog.mined = .ok vaultInterestLog := by
    simp [vaultInterestLog, tenInterestLog, MinedLog.toLog, Log.mined, hashes]
  refine exact_singleChunk vaultInterestChunk rfl mined ⟨hyperevmSusdpAddress, ?_, rfl⟩ (by decide)
  decide +kernel

theorem exact_vaultCalls : ∀ call ∈ vaultCalls,
    call.Exact (fun _ => .single vaultInterestLog) fun _ => vaultAddresses := by
  intro call called
  simp only [vaultCalls, List.mem_cons, List.not_mem_nil, or_false] at called
  rcases called with rfl | rfl | rfl | rfl
  · exact exact_vaultInterestChunk
  all_goals trivial

/-- The accrual of ten, and the two by which what is pending has grown. -/
theorem vault_yields_on_chain_tenBlocks :
    let db := vaultRun tenInterestViem id vaultCalls
    db.yields.values.map (fun row => (row.accruedInterest, row.nativeYpo)) = [(10, 12)] ∧
      ∀ row ∈ db.yields.values,
        row.OnChain tenInterestViem (fun _ => .single vaultInterestLog) db.snapshots :=
  ⟨by decide +kernel, (vault_yields_on_chain tenInterestViem id (fun _ => .single vaultInterestLog)
    (fun _ => vaultAddresses) watchesVaults_vaultAddresses vaultCalls exact_vaultCalls).1⟩

end UsdpIndexer
