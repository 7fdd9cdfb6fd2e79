import UsdpIndexer.Analytics.HolderLedger

/-!
# What a ledger says of the past

A rebuild marks every balance that it writes as that of a complete history, while what it has
checked is that the requested range is covered.  A balance is the whole history's exactly if
its holder had nothing when the range began, as it is if the range begins at the deployment.
-/

namespace UsdpIndexer

open KeyedTable hiding Unique
open FailingFold

/-! ## Histories -/

/-- What a history leaves on an account. -/
def held (history : List TransferReplayEvent) (account : ParallelAssetId × String) : ℤ :=
  credits history account.1 account.2 - debits history account.1 account.2

theorem held_perm {history history' : List TransferReplayEvent} (perm : history.Perm history')
    (account : ParallelAssetId × String) : held history account = held history' account := by
  rw [held, held, credits_perm perm, debits_perm perm]

theorem held_append (history history' : List TransferReplayEvent)
    (account : ParallelAssetId × String) :
    held (history ++ history') account = held history account + held history' account := by
  simp only [held, credits, debits, List.filter_append, List.map_append, List.sum_append]
  omega

/-- The transfers up to a block. -/
def transfersUpTo (history : List TransferReplayEvent) (block : ℤ) : List TransferReplayEvent :=
  history.filter (·.blockNumber ≤ block)

/-- The transfers in a range of blocks. -/
def transfersWithin (history : List TransferReplayEvent) (fromBlock toBlock : ℤ) :
    List TransferReplayEvent :=
  history.filter fun event => fromBlock ≤ event.blockNumber ∧ event.blockNumber ≤ toBlock

/-- A history up to a block, cut where a range begins. -/
theorem held_transfersUpTo (history : List TransferReplayEvent) {fromBlock toBlock : ℤ}
    (order : fromBlock ≤ toBlock) (account : ParallelAssetId × String) :
    held (transfersUpTo history toBlock) account
      = held (transfersUpTo history (fromBlock - 1)) account
        + held (transfersWithin history fromBlock toBlock) account := by
  rw [← held_append]
  refine held_perm ?_ account
  have cut := List.filter_append_perm (fun event : TransferReplayEvent =>
    decide (event.blockNumber ≤ fromBlock - 1)) (transfersUpTo history toBlock)
  refine cut.symm.trans (.of_eq ?_)
  rw [transfersUpTo, transfersUpTo, transfersWithin, List.filter_filter, List.filter_filter]
  congr 1
  all_goals
    refine List.filter_congr fun event _ => ?_
    rw [Bool.eq_iff_iff]
    simp only [Bool.and_eq_true, Bool.not_eq_true', decide_eq_true_eq, decide_eq_false_iff_not]
    omega

/-! ## The rows of one call -/

namespace RebuildCall

variable (call : RebuildCall) (adapter : SavingsChainAdapter) (scope : String)

/-- The rows that the call puts into `holder_balances`. -/
def writtenRows : List HolderBalanceRow :=
  match call.replay adapter with
  | .ok replay => replay.balances.map (call.balanceRow adapter scope)
  | .error _ => []

/-- What the index has in the range is what has happened there. -/
def Reads (history : List TransferReplayEvent) : Prop :=
  ∃ events, call.transfers adapter = .ok events ∧
    events.Perm (transfersWithin history call.fromBlock call.toBlock)

/-- The balances that the call writes as those of a complete history are those of the history
up to the end of its range. -/
def SoundIn (history : List TransferReplayEvent) (tables : HolderTables) : Prop :=
  ∀ row ∈ (rebuildHolderLedger adapter scope call tables).2.balances,
    row ∈ call.writtenRows adapter scope → row.historyComplete →
      row.balance = held (transfersUpTo history call.toBlock) (row.assetId, row.holderAddress)

variable {call adapter scope} {history : List TransferReplayEvent}

/-- **What a call that succeeds has written**: a row for everybody who has taken part, with
what the transfers of the range leave. -/
theorem Succeeds.rows (succeeds : call.Succeeds adapter scope)
    (reads : call.Reads adapter history) :
    (∀ row ∈ call.writtenRows adapter scope, row.historyComplete ∧
        call.Participates adapter (row.assetId, row.holderAddress) ∧
        row.balance = held (transfersWithin history call.fromBlock call.toBlock)
          (row.assetId, row.holderAddress)) ∧
      (∀ account, call.Participates adapter account →
        ∃ row ∈ call.writtenRows adapter scope, (row.assetId, row.holderAddress) = account) ∧
      ∀ tables, ∀ row ∈ call.writtenRows adapter scope,
        row ∈ (rebuildHolderLedger adapter scope call tables).2.balances := by
  obtain ⟨events, replay, read, run, conserves, writes⟩ := succeeds.spec
  obtain ⟨events', read', perm⟩ := reads
  obtain rfl : events = events' := Except.ok.inj (read.symm.trans read')
  have written : call.writtenRows adapter scope
      = replay.balances.map (call.balanceRow adapter scope) := by
    rw [writtenRows, run]
  rw [written]
  refine ⟨?_, ?_, ?_⟩
  · intro row mem
    obtain ⟨balance, stored, rfl⟩ := List.mem_map.mp mem
    obtain ⟨ne, took⟩ := (conserves.holders _ _).mp ⟨balance, stored, rfl⟩
    have same := held_perm perm (balance.assetId, balance.holderAddress)
    exact ⟨rfl, ⟨ne, events, read, took⟩, (conserves.balance balance stored).trans same⟩
  · rintro account ⟨ne, events', read', took⟩
    obtain rfl : events = events' := Except.ok.inj (read.symm.trans read')
    obtain ⟨balance, stored, same⟩ := (conserves.holders _ _).mpr ⟨ne, took⟩
    exact ⟨_, List.mem_map_of_mem stored, same⟩
  · intro tables row mem
    rw [writes, call.balances_write]
    exact (mem_upsertAll _ _ _ (call.unique_balanceRows adapter scope conserves)).mpr (.inl mem)

/-- Somebody takes part only if there is a range. -/
theorem Participates.order {account : ParallelAssetId × String}
    (took : call.Participates adapter account) (reads : call.Reads adapter history) :
    call.fromBlock ≤ call.toBlock := by
  obtain ⟨-, events, read, event, mem, -⟩ := took
  obtain ⟨events', read', perm⟩ := reads
  obtain rfl : events = events' := Except.ok.inj (read.symm.trans read')
  have inside := of_decide_eq_true (List.mem_filter.mp (perm.mem_iff.mp mem)).2
  omega

end RebuildCall

/-- **When a complete history is one**: nobody who takes part in the range has held anything
when it began. -/
theorem historyComplete_sound_iff (adapter : SavingsChainAdapter) (scope : String)
    (call : RebuildCall) (history : List TransferReplayEvent) (tables : HolderTables)
    (succeeds : call.Succeeds adapter scope) (reads : call.Reads adapter history) :
    call.SoundIn adapter scope history tables ↔
      ∀ account, call.Participates adapter account →
        held (transfersUpTo history (call.fromBlock - 1)) account = 0 := by
  obtain ⟨written, everybody, stored⟩ := succeeds.rows reads
  constructor
  · intro sound account took
    obtain ⟨row, mem, rfl⟩ := everybody account took
    obtain ⟨complete, -, balance⟩ := written row mem
    have whole := sound row (stored tables row mem) mem complete
    rw [held_transfersUpTo history (took.order reads), balance] at whole
    omega
  · intro nothing row _ mem _
    obtain ⟨-, took, balance⟩ := written row mem
    rw [held_transfersUpTo history (took.order reads), nothing _ took, balance, zero_add]

/-- A range that begins at the deployment has no past. -/
theorem historyComplete_sound_of_deployment {adapter : SavingsChainAdapter} {scope : String}
    {call : RebuildCall} {history : List TransferReplayEvent}
    (succeeds : call.Succeeds adapter scope) (reads : call.Reads adapter history)
    (deployment : ∀ event ∈ history, call.fromBlock ≤ event.blockNumber) (tables : HolderTables) :
    call.SoundIn adapter scope history tables := by
  refine (historyComplete_sound_iff adapter scope call history tables succeeds reads).mpr
    fun account _ => ?_
  have nothing : transfersUpTo history (call.fromBlock - 1) = [] := by
    refine List.filter_eq_nil_iff.mpr fun event mem early => ?_
    have := deployment event mem
    have := of_decide_eq_true early
    omega
  rw [nothing]
  rfl

/-! ## A range that begins later

A hundred are minted in block 1, another hundred in block 2. -/

/-- The index with the two mints. -/
def mintIndex : Database :=
  { sampleIndex with
    protocolEvents := [sampleTransfer 1 ZERO_ADDRESS alice, sampleTransfer 2 ZERO_ADDRESS alice] }

/-- The mints as the replay reads them. -/
def mintHistory : List TransferReplayEvent :=
  [⟨.usdp, 1, 1000, 0, ZERO_ADDRESS, alice, 100⟩, ⟨.usdp, 2, 2000, 0, ZERO_ADDRESS, alice, 100⟩]

/-- The rebuild from a block on. -/
def mintRebuild (fromBlock : ℤ) : RebuildCall := ⟨fromBlock, 2, none, mintIndex, none⟩

theorem succeeds_mintRebuild : (mintRebuild 1).Succeeds sampleAdapter "lifetime" ∧
    (mintRebuild 2).Succeeds sampleAdapter "lifetime" := by
  decide +kernel

theorem reads_mintRebuild : (mintRebuild 1).Reads sampleAdapter mintHistory ∧
    (mintRebuild 2).Reads sampleAdapter mintHistory := by
  have whole : (mintRebuild 1).transfers sampleAdapter = .ok mintHistory ∧
      (mintRebuild 2).transfers sampleAdapter = .ok (mintHistory.drop 1) := by decide +kernel
  exact ⟨⟨_, whole.1, .of_eq (by decide)⟩, ⟨_, whole.2, .of_eq (by decide)⟩⟩

theorem historyComplete_sound_iff_deployment :
    (mintRebuild 1).SoundIn sampleAdapter "lifetime" mintHistory .empty :=
  (historyComplete_sound_iff sampleAdapter "lifetime" (mintRebuild 1) mintHistory .empty
    succeeds_mintRebuild.1 reads_mintRebuild.1).mpr fun account _ => by
      have nothing : transfersUpTo mintHistory ((mintRebuild 1).fromBlock - 1) = [] := by decide
      rw [nothing]
      rfl

/-- **The balance of a complete history is short of the first mint.** -/
theorem historyComplete_fails_later :
    ¬ ∀ (adapter : SavingsChainAdapter) (scope : String) (call : RebuildCall)
      (history : List TransferReplayEvent) (tables : HolderTables),
      call.Succeeds adapter scope → call.Reads adapter history →
        call.SoundIn adapter scope history tables := by
  intro sound
  have late := sound sampleAdapter "lifetime" (mintRebuild 2) mintHistory .empty
    succeeds_mintRebuild.2 reads_mintRebuild.2
  have wrong : ∃ row ∈ (mintRebuild 2).writtenRows sampleAdapter "lifetime",
      row ∈ (rebuildHolderLedger sampleAdapter "lifetime" (mintRebuild 2) .empty).2.balances ∧
      row.historyComplete ∧ row.balance ≠
        held (transfersUpTo mintHistory (mintRebuild 2).toBlock)
          (row.assetId, row.holderAddress) := by
    decide +kernel
  obtain ⟨row, mem, stored, complete, differs⟩ := wrong
  exact differs (late row stored mem complete)

end UsdpIndexer
