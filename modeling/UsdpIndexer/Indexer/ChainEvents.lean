import Mathlib.Data.List.Perm.Basic
import Mathlib.Data.Set.Finite.Basic
import UsdpIndexer.Indexer.CoverageSoundness

/-!
# The events of a covered range are those of the chain

What is derived from the index is derived from `protocol_events`, and what it should be
derived from are the logs of the chain.  Over a range that a lane covers the two agree: the
stored events of a contract are the decoded logs of that contract, each once
(`StoreInvariant.events_perm`).  It does not matter which runs have stored them, under which
scopes and in which order, nor what has been stored for other contracts.

A contract is named by its role, which the decoder finds by the address.
-/

namespace UsdpIndexer

open Text

/-! ## The logs of a contract -/

/-- The role of the contract at an address. -/
def contractRole (chainId : ℕ) (address : String) : Option String :=
  (findDecoder chainId address).map (·.role)

/-- An event has the role of the contract that emitted it. -/
theorem contractRole_of_decodeProtocolLog {viem : Viem} {chainId : ℕ} {address data : String}
    {topics : List String} {decoded : DecodedProtocolEvent}
    (result : decodeProtocolLog viem chainId address data topics = some decoded) :
    contractRole chainId address = some decoded.contractRole := by
  unfold decodeProtocolLog at result
  split at result
  · rename_i decoder topic found _
    split at result
    · cases result
    · obtain ⟨raw, -, rfl⟩ := Option.map_eq_some_iff.mp result
      rw [contractRole, found]
      rfl
  · cases result

/-- The addresses include those of every contract with one of the roles. -/
def WatchesRoles (addresses : List String) (chainId : ℕ) (roles : List String) : Prop :=
  ∀ address, ∀ role ∈ roles, contractRole chainId address = some role → Watches addresses address

/-- A contract with a role is in the table of the decoders. -/
theorem mem_decoders_of_contractRole {chainId : ℕ} {address role : String}
    (found : contractRole chainId address = some role) :
    ∃ decoder, ((chainId, toLowerCase address), decoder) ∈ decoders ∧ decoder.role = role := by
  obtain ⟨decoder, found, same⟩ := Option.map_eq_some_iff.mp found
  obtain ⟨before, after, split, -⟩ := List.lookup_eq_some_iff.mp found
  refine ⟨decoder, List.mem_reverse.mp ?_, same⟩
  rw [split]
  exact List.mem_append_right _ List.mem_cons_self

/-- Addresses watch the roles if they include those of the table. -/
theorem watchesRoles_of_decoders {addresses : List String} {chainId : ℕ} {roles : List String}
    (included : ∀ entry ∈ decoders, entry.1.1 = chainId → entry.2.role ∈ roles →
      ∃ watched ∈ addresses, toLowerCase watched = entry.1.2) :
    WatchesRoles addresses chainId roles := by
  intro address role wanted found
  obtain ⟨decoder, mem, rfl⟩ := mem_decoders_of_contractRole found
  exact included _ mem rfl wanted

/-- The entries of the table: the two contracts of every adapter, and the parallelizer. -/
theorem mem_decoders {entry : (ℕ × String) × DecoderDefinition} (mem : entry ∈ decoders) :
    (∃ adapter ∈ savingsChainAdapters, entry = ((adapter.chainId,
        toLowerCase adapter.usdp.address), ⟨"usdp-token", "usdp-token-v1", .erc20Abi⟩) ∨
      entry = ((adapter.chainId, toLowerCase adapter.susdp.address),
        ⟨"susdp-savings", "susdp-savings-v1", .savingsAbi⟩)) ∨
    entry = ((HYPEREVM_CHAIN_ID, toLowerCase hyperevmParallelizerAddress),
      ⟨"usdp-parallelizer", "parallelizer-v1", .parallelizerAbi⟩) := by
  rcases List.mem_append.mp mem with contract | parallelizer
  · obtain ⟨adapter, hadapter, contract⟩ := List.mem_flatMap.mp contract
    simp only [List.mem_cons, List.not_mem_nil, or_false] at contract
    exact .inl ⟨adapter, hadapter, contract⟩
  · exact .inr (List.mem_singleton.mp parallelizer)

/-- The logs of the contracts with these roles in a range of blocks, each of them once. -/
structure ChainLogs.Lists (chain : ChainLogs) (chainId : ℕ) (roles : List String)
    (fromBlock toBlock : ℤ) (logs : List MinedLog) : Prop where
  nodup : logs.Nodup
  mem_iff : ∀ log, log ∈ logs ↔ chain.Has log ∧
    (∃ role ∈ roles, contractRole chainId log.address = some role) ∧
    fromBlock ≤ log.blockNumber ∧ log.blockNumber ≤ toBlock

/-- There is one list of them, up to its order. -/
theorem ChainLogs.Lists.perm {chain : ChainLogs} {chainId : ℕ} {roles : List String}
    {fromBlock toBlock : ℤ} {logs logs' : List MinedLog}
    (lists : chain.Lists chainId roles fromBlock toBlock logs)
    (lists' : chain.Lists chainId roles fromBlock toBlock logs') : logs.Perm logs' :=
  (List.perm_ext_iff_of_nodup lists.nodup lists'.nodup).mpr fun log =>
    (lists.mem_iff log).trans (lists'.mem_iff log).symm

/-- The logs of two ranges that follow each other. -/
theorem ChainLogs.Lists.append {chain : ChainLogs} {chainId : ℕ} {roles : List String}
    {fromBlock middle toBlock : ℤ} {logs logs' : List MinedLog}
    (lists : chain.Lists chainId roles fromBlock middle logs)
    (lists' : chain.Lists chainId roles (middle + 1) toBlock logs')
    (lower : fromBlock ≤ middle + 1) (upper : middle ≤ toBlock) :
    chain.Lists chainId roles fromBlock toBlock (logs ++ logs') where
  nodup := by
    refine List.nodup_append.mpr ⟨lists.nodup, lists'.nodup, ?_⟩
    rintro log mem _ mem' rfl
    have before := ((lists.mem_iff log).mp mem).2.2.2
    have after := ((lists'.mem_iff log).mp mem').2.2.1
    omega
  mem_iff := by
    intro log
    rw [List.mem_append, lists.mem_iff, lists'.mem_iff]
    constructor
    · rintro (⟨has, role, low, high⟩ | ⟨has, role, low, high⟩)
      · exact ⟨has, role, low, high.trans upper⟩
      · exact ⟨has, role, by omega, high⟩
    · rintro ⟨has, role, low, high⟩
      by_cases first : log.blockNumber ≤ middle
      · exact .inl ⟨has, role, low, first⟩
      · exact .inr ⟨has, role, by omega, high⟩

/-- An event without the number of its raw log. -/
def ProtocolEventRow.unnumbered (event : ProtocolEventRow) : ProtocolEventRow :=
  { event with rawLogId := 0 }

/-- What a log of the chain is decoded to. -/
def chainEvent (viem : Viem) (chainId : ℕ) (log : MinedLog) : Option ProtocolEventRow :=
  (decodeProtocolLog viem chainId log.address log.data log.topics).map
    (protocolEventRow chainId 0 log)

/-- The events of a chain with these roles in a range of blocks. -/
def Database.eventsOf (db : Database) (chainId : ℕ) (roles : List String)
    (fromBlock toBlock : ℤ) : List ProtocolEventRow :=
  db.protocolEvents.filter fun event =>
    event.chainId = chainId ∧ event.contractRole ∈ roles ∧
      fromBlock ≤ event.blockNumber ∧ event.blockNumber ≤ toBlock

theorem Database.mem_eventsOf {db : Database} {chainId : ℕ} {roles : List String}
    {fromBlock toBlock : ℤ} {event : ProtocolEventRow} :
    event ∈ db.eventsOf chainId roles fromBlock toBlock ↔
      event ∈ db.protocolEvents ∧ event.chainId = chainId ∧ event.contractRole ∈ roles ∧
        fromBlock ≤ event.blockNumber ∧ event.blockNumber ≤ toBlock := by
  rw [eventsOf, List.mem_filter, decide_eq_true_eq]

/-! ## Events and logs -/

section Invariant

variable {viem : Viem} {chains : ℕ → ChainLogs} {watched : Lane → List String} {db : Database}

/-- A stored event is what its log is decoded to. -/
theorem StoreInvariant.exists_log (inv : StoreInvariant viem chains watched db)
    {event : ProtocolEventRow} (mem : event ∈ db.protocolEvents) :
    ∃ log, (chains event.chainId).Has log ∧
      chainEvent viem event.chainId log = some event.unnumbered ∧
      contractRole event.chainId log.address = some event.contractRole := by
  obtain ⟨row, -, log, decoded, has, -, decodes, rfl⟩ := inv.events_sound event mem
  refine ⟨log, has, ?_, contractRole_of_decodeProtocolLog decodes⟩
  rw [chainEvent]
  exact congrArg (Option.map _) decodes

/-- Two events that agree in everything but the number agree in the number as well. -/
theorem StoreInvariant.unnumbered_inj (inv : StoreInvariant viem chains watched db)
    {event event' : ProtocolEventRow} (mem : event ∈ db.protocolEvents)
    (mem' : event' ∈ db.protocolEvents) (same : event.unnumbered = event'.unnumbered) :
    event = event' := by
  obtain ⟨row, hrow, log, decoded, -, stores, -, rfl⟩ := inv.events_sound event mem
  obtain ⟨row', hrow', log', decoded', -, stores', -, rfl⟩ := inv.events_sound event' mem'
  simp only [ProtocolEventRow.unnumbered, protocolEventRow, ProtocolEventRow.mk.injEq,
    true_and] at same
  -- transaction and log index are the key of the raw log
  have sameRow : row = row' := by
    apply inv.rawLogs_unique.eq_of_key_eq RawLogRow.key hrow hrow'
    rw [stores.key_eq, stores'.key_eq]
    simp only [MinedLog.key, same]
  subst sameRow
  simp only [protocolEventRow, same]

/-- Different logs are decoded to different events. -/
theorem chainEvent_inj {chain : ChainLogs} {chainId : ℕ} {log log' : MinedLog}
    (has : chain.Has log) (has' : chain.Has log') {event : ProtocolEventRow}
    (decodes : chainEvent viem chainId log = some event)
    (decodes' : chainEvent viem chainId log' = some event) : log = log' := by
  obtain ⟨decoded, -, rfl⟩ := Option.map_eq_some_iff.mp decodes
  obtain ⟨decoded', -, same⟩ := Option.map_eq_some_iff.mp decodes'
  simp only [protocolEventRow, ProtocolEventRow.mk.injEq, true_and] at same
  exact chain.identified has has' same.2.1.symm same.2.2.1.symm

variable {lane : Lane} {roles : List String} {fromBlock toBlock : ℤ} {logs : List MinedLog}

/-- A log of a covered range that decodes has an event. -/
theorem StoreInvariant.exists_event (inv : StoreInvariant viem chains watched db)
    (watches : WatchesRoles (watched lane) lane.chainId roles) {log : MinedLog}
    (covered : db.CoveredFor lane log.blockNumber) (has : (chains lane.chainId).Has log)
    {role : String} (wanted : role ∈ roles)
    (address : contractRole lane.chainId log.address = some role) {event : ProtocolEventRow}
    (decodes : chainEvent viem lane.chainId log = some event) :
    ∃ stored ∈ db.protocolEvents, stored.unnumbered = event := by
  obtain ⟨range, covers, chain, scope, lower, upper⟩ :=
    Database.covered_coverageRanges.mp covered
  have promise := inv.covered range covers log
  rw [chain, scope] at promise
  obtain ⟨row, mem, key⟩ := promise has (watches log.address role wanted address) lower upper
  obtain ⟨sameChain, stores⟩ := stores_of_key_eq (inv.rawLogs_stored row mem) has key
  obtain ⟨decoded, result, rfl⟩ := Option.map_eq_some_iff.mp decodes
  rw [← sameChain] at has result ⊢
  obtain ⟨stored, hstored, id⟩ := inv.events_complete row mem log decoded stores has result
  refine ⟨stored, hstored, ?_⟩
  -- the event of the row is what the one log under its key is decoded to
  obtain ⟨row', hrow', log', decoded', has', stores', result', rfl⟩ :=
    inv.events_sound stored hstored
  obtain rfl : row' = row := inv.rawLogs_ids.eq_of_key_eq RawLogRow.id hrow' mem id
  have same := stores'.key_eq.symm.trans stores.key_eq
  simp only [MinedLog.key, Prod.mk.injEq, true_and] at same
  obtain rfl := (chains row'.chainId).identified has' has same.1 same.2
  rw [result, Option.some.injEq] at result'
  rw [result']
  rfl

/-- **Over a covered range the stored events are the decoded logs of the chain**, each
once. -/
theorem StoreInvariant.events_perm (inv : StoreInvariant viem chains watched db)
    (watches : WatchesRoles (watched lane) lane.chainId roles)
    (covered : ∀ block, fromBlock ≤ block → block ≤ toBlock → db.CoveredFor lane block)
    (lists : (chains lane.chainId).Lists lane.chainId roles fromBlock toBlock logs) :
    ((db.eventsOf lane.chainId roles fromBlock toBlock).map ProtocolEventRow.unnumbered).Perm
      (logs.filterMap (chainEvent viem lane.chainId)) := by
  have stored : ((db.eventsOf lane.chainId roles fromBlock toBlock).map
      ProtocolEventRow.unnumbered).Nodup := by
    refine (inv.events_unique.of_map _ |>.filter _).map_on fun event mem event' mem' same => ?_
    exact inv.unnumbered_inj (Database.mem_eventsOf.mp mem).1 (Database.mem_eventsOf.mp mem').1
      same
  have decoded : (logs.filterMap (chainEvent viem lane.chainId)).Nodup := by
    rw [List.Nodup, List.pairwise_filterMap]
    refine lists.nodup.imp_of_mem ?_
    rintro log log' mem mem' differ event decodes _ decodes' rfl
    exact differ (chainEvent_inj ((lists.mem_iff log).mp mem).1 ((lists.mem_iff log').mp mem').1
      decodes decodes')
  refine (List.perm_ext_iff_of_nodup stored decoded).mpr fun event => ?_
  rw [List.mem_map, List.mem_filterMap]
  constructor
  · rintro ⟨row, mem, rfl⟩
    obtain ⟨hrow, chain, wanted, lower, upper⟩ := Database.mem_eventsOf.mp mem
    obtain ⟨log, has, decodes, address⟩ := inv.exists_log hrow
    rw [chain] at has decodes address
    refine ⟨log, (lists.mem_iff log).mpr ⟨has, ⟨_, wanted, address⟩, ?_⟩, decodes⟩
    obtain ⟨_, -, same⟩ := Option.map_eq_some_iff.mp decodes
    have block : log.blockNumber = row.blockNumber := congrArg ProtocolEventRow.blockNumber same
    omega
  · rintro ⟨log, mem, decodes⟩
    obtain ⟨has, ⟨role, wanted, address⟩, lower, upper⟩ := (lists.mem_iff log).mp mem
    obtain ⟨row, hrow, rfl⟩ := inv.exists_event watches (covered _ lower upper) has wanted address
      decodes
    refine ⟨row, Database.mem_eventsOf.mpr ⟨hrow, ?_⟩, rfl⟩
    obtain ⟨result, decodes, same⟩ := Option.map_eq_some_iff.mp decodes
    have role' := contractRole_of_decodeProtocolLog decodes
    rw [address, Option.some.injEq] at role'
    simp only [ProtocolEventRow.unnumbered, protocolEventRow, ProtocolEventRow.mk.injEq,
      true_and] at same
    obtain ⟨chain, block, -, -, role'', -⟩ := same
    rw [← chain, ← block, ← role'', ← role']
    exact ⟨rfl, wanted, lower, upper⟩

/-- The logs of a covered range can be listed. -/
theorem StoreInvariant.exists_lists (inv : StoreInvariant viem chains watched db)
    (watches : WatchesRoles (watched lane) lane.chainId roles)
    (covered : ∀ block, fromBlock ≤ block → block ≤ toBlock → db.CoveredFor lane block) :
    ∃ logs, (chains lane.chainId).Lists lane.chainId roles fromBlock toBlock logs := by
  let wanted : Set MinedLog := { log | (chains lane.chainId).Has log ∧
    (∃ role ∈ roles, contractRole lane.chainId log.address = some role) ∧
    fromBlock ≤ log.blockNumber ∧ log.blockNumber ≤ toBlock }
  -- each of them has a row of its own
  have finite : wanted.Finite := by
    refine Set.Finite.of_injOn (f := MinedLog.key lane.chainId)
      (t := { key | key ∈ db.rawLogs.map RawLogRow.key }) ?_ ?_ (List.finite_toSet _)
    · rintro log ⟨has, ⟨role, hrole, address⟩, lower, upper⟩
      obtain ⟨range, covers, chain, scope, low, high⟩ :=
        Database.covered_coverageRanges.mp (covered _ lower upper)
      have promise := inv.covered range covers log
      rw [chain, scope] at promise
      obtain ⟨row, mem, key⟩ := promise has (watches log.address role hrole address) low high
      exact List.mem_map.mpr ⟨row, mem, key⟩
    · rintro log ⟨has, -⟩ log' ⟨has', -⟩ same
      simp only [MinedLog.key, Prod.mk.injEq, true_and] at same
      exact (chains lane.chainId).identified has has' same.1 same.2
  refine ⟨finite.toFinset.toList, Finset.nodup_toList _, fun log => ?_⟩
  rw [Finset.mem_toList, Set.Finite.mem_toFinset]
  exact Iff.rfl

end Invariant

end UsdpIndexer
