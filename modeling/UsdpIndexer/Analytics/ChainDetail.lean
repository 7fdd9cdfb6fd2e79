import UsdpIndexer.Analytics.ChainDashboard

/-!
# The holders of a chain

`analytics/chain-detail.ts`: the page of a chain lists the balances of the chain and the scope
of its dashboard row, once the row is published.

The query does not ask for the range of a balance, and a scope may hold balances of several.
If the scope has been rebuilt over the row's range only, and watches both tokens, then the list
is exact: everybody who holds something at the end of the range is in it, once, with what they
hold (`holders_shown_exactly`).
-/

namespace UsdpIndexer

open KeyedTable hiding Unique
open StableOrder

/-- What is shown of a holder. -/
structure ChainHolderRow where
  assetId : ParallelAssetId
  holderAddress : String
  balance : ℤ
  firstPositiveBlock : Option ℤ
  /-- In milliseconds, as the other time. -/
  firstPositiveAt : Option ℤ
  lastChangedBlock : ℤ
  lastChangedAt : Option ℤ
deriving DecidableEq, Repr

/-- The holders of a chain, or why they are not shown. -/
inductive ChainHolders
  | unavailable (reason : String)
  | complete (rows : List ChainHolderRow)
deriving DecidableEq, Repr

/-- The holders that are shown. -/
def ChainHolders.rows : ChainHolders → List ChainHolderRow
  | .unavailable _ => []
  | .complete rows => rows

/-- `order by hb.asset_id, hb.balance::numeric desc, hb.holder_address`; addresses are lower
case hexadecimal, which every collation orders alike. -/
def compareHolders (a b : HolderBalanceRow) : ℤ :=
  let byBalance := lexCompare (fun row : HolderBalanceRow => (row.assetId.rank : ℤ))
    (fun row => -row.balance) a b
  if byBalance ≠ 0 then byBalance
  else if a.holderAddress < b.holderAddress then -1
  else if b.holderAddress < a.holderAddress then 1
  else 0

/-- The time of a block that is left-joined. -/
def joinedTime (index : Database) (chainId : ℕ) (block : ℤ) : Option ℤ :=
  (lookup BlockRow.key index.blocks (chainId, block)).map (1000 * ·.timestamp)

/-- A balance, with the times of its two blocks. -/
def chainHolderRow (index : Database) (row : HolderBalanceRow) : ChainHolderRow where
  assetId := row.assetId
  holderAddress := row.holderAddress
  balance := row.balance
  firstPositiveBlock := row.firstPositiveBlock
  firstPositiveAt := row.firstPositiveBlock.bind (joinedTime index row.chainId)
  lastChangedBlock := row.lastChangedBlock
  lastChangedAt := joinedTime index row.chainId row.lastChangedBlock

/-- The balances that the page of a chain asks for. -/
def HolderTables.selected (tables : HolderTables) (range : LifetimeDashboardRange) :
    List HolderBalanceRow :=
  tables.balances.filter fun row =>
    row.chainId = range.chainId ∧ row.sourceScope = range.scope ∧ row.historyComplete ∧
      row.balance ≠ 0

/-- The holders are shown once the row of the dashboard is published. -/
def readChainHolders (index : Database) (tables : HolderTables)
    (lifetime : Option LifetimeDashboardRow) : ChainHolders :=
  match lifetime with
  | none => .unavailable "complete_holder_replay_not_available"
  | some row =>
      if row.publicationStatus ≠ .published then
        .unavailable "complete_holder_replay_not_available"
      else
        .complete ((sortBy compareHolders (tables.selected row.range)).map (chainHolderRow index))

/-! ## What is listed -/

/-- The page lists first the one asset and then the other, the larger balances first. -/
theorem ordersBy_compareHolders : OrdersBy compareHolders fun row =>
    toLex ((row.assetId.rank : ℤ), toLex (-row.balance, row.holderAddress)) := by
  intro a b
  unfold compareHolders lexCompare
  simp only [Prod.Lex.toLex_le_toLex]
  by_cases asset : (a.assetId.rank : ℤ) = b.assetId.rank
  · by_cases balance : a.balance = b.balance
    · simp only [asset, balance, sub_self, ne_eq, not_true_eq_false, if_false, lt_irrefl, false_or,
        true_and]
      by_cases before : a.holderAddress < b.holderAddress
      · simp [before, before.le]
      · by_cases after : b.holderAddress < a.holderAddress
        · simp [before, after]
        · simp [before, after, not_lt.mp after]
    · have differ : -a.balance - -b.balance ≠ 0 := by omega
      simp only [asset, sub_self, ne_eq, not_true_eq_false, if_false, differ, not_false_eq_true,
        if_true, lt_irrefl, false_or, true_and]
      omega
  · have differ : (a.assetId.rank : ℤ) - b.assetId.rank ≠ 0 := by omega
    simp only [ne_eq, differ, not_false_eq_true, if_true]
    omega

/-- The rebuilds of a chain under a scope of the dashboard are all over the row's range. -/
def OneHolderSource (calls : List DatabaseCall) (range : LifetimeDashboardRange) : Prop :=
  ∀ call ∈ calls, ∀ source, call.holderSource = some source → source.chainId = range.chainId →
    source.scope ∈ dashboardScopes →
      source = ⟨range.chainId, range.scope, range.fromBlock, range.goalBlock⟩

/-- The list is that of the holders of the chain after these logs: each of them once, with
what is held. -/
structure ChainHolders.Exact (holders : ChainHolders) (viem : Viem) (chainId : ℕ)
    (logs : List MinedLog) : Prop where
  once : (holders.rows.map fun row => (row.assetId, row.holderAddress)).Nodup
  mem_iff : ∀ assetId address balance,
    (∃ row ∈ holders.rows, row.assetId = assetId ∧ row.holderAddress = address ∧
        row.balance = balance) ↔
      address ≠ ZERO_ADDRESS ∧ balance ≠ 0 ∧
        balanceOf viem chainId logs (assetId, address) = balance
  ordered : holders.rows.Pairwise fun a b =>
    a.assetId.rank < b.assetId.rank ∨ a.assetId = b.assetId ∧ b.balance ≤ a.balance

section Listed

variable {viem : Viem} {chains : ℕ → ChainLogs} {watched : Lane → List String}
  {calls : List DatabaseCall} {db : WholeDatabase} {range : LifetimeDashboardRange}
  {createdAt : AssetActivityRow → ℤ}

/-- A published row has an activity of its own source. -/
theorem exists_activity_of_published (written : db.WrittenBy calls)
    (one : OneHolderSource calls range)
    (published : ((db.dashboard createdAt).dashboardRow range).publicationStatus = .published) :
    ∃ row ∈ db.holders.activity,
      row.source = ⟨range.chainId, range.scope, range.fromBlock, range.goalBlock⟩ := by
  have two := (lifetimePublicationStatus_eq_published_iff.mp published).2
  obtain ⟨aggregate, mem⟩ := List.exists_mem_of_length_pos (Nat.lt_of_lt_of_le Nat.two_pos two)
  obtain ⟨selected, own⟩ := List.mem_filter.mp mem
  obtain ⟨candidate, scope⟩ :=
    List.mem_filter.mp (SelectFirst.mem_of_mem_distinctOn selected)
  obtain ⟨row, stored, rfl⟩ := List.mem_map.mp candidate
  obtain ⟨call, called, wrote⟩ := written.activity row stored
  exact ⟨row, stored, one call called _ wrote (of_decide_eq_true own).1 (of_decide_eq_true scope).1⟩

/-- The two assets are told apart by their order. -/
theorem ParallelAssetId.rank_injective : Function.Injective ParallelAssetId.rank := by
  intro a b same
  cases a <;> cases b <;> first | rfl | cases same

/-- **The list of a published row** is exact. -/
theorem HolderTables.OnChain.exact_readChainHolders
    (onChain : db.holders.OnChain viem chains range.Reads) (written : db.WrittenBy calls)
    (known : range ∈ lifetimeDashboardRanges)
    (one : OneHolderSource calls range)
    (published : ((db.dashboard createdAt).dashboardRow range).publicationStatus = .published) :
    ∃ logs,
      (chains range.chainId).Lists range.chainId tokenRoles range.fromBlock range.goalBlock logs ∧
      (readChainHolders db.analytics.index db.holders
        (some ((db.dashboard createdAt).dashboardRow range))).Exact viem range.chainId logs := by
  obtain ⟨activity, stored, source⟩ := exists_activity_of_published written one published
  simp only [AssetActivityRow.source, HolderSource.mk.injEq] at source
  obtain ⟨chain, scope, fromBlock, toBlock⟩ := source
  -- the lane of the row is one that it reads
  have reads {lane : Lane} (ownChain : lane.chainId = range.chainId)
      (ownScope : lane.scope = range.scope) : range.Reads lane :=
    ⟨ownChain, ownScope ▸ List.mem_map_of_mem known⟩
  have mine : range.Reads activity.lane := reads chain scope
  obtain ⟨logs, _, _, lists, -⟩ := onChain.activity activity stored mine
  have everybody {account : ParallelAssetId × String} (zero : account.2 ≠ ZERO_ADDRESS) :=
    @HolderTables.OnChain.exists_balance _ _ _ _ onChain _ stored mine _ lists account zero
  rw [chain, fromBlock, toBlock] at lists
  simp only [chain, scope] at everybody
  -- every balance of the scope is of the row's range
  have balances {row : HolderBalanceRow} (mem : row ∈ db.holders.balances)
      (ownChain : row.chainId = range.chainId) (ownScope : row.sourceScope = range.scope) :
      row.balance = balanceOf viem range.chainId logs (row.assetId, row.holderAddress) := by
    obtain ⟨call, called, wrote⟩ := written.balances row mem
    have same := one call called _ wrote ownChain
      (by rw [HolderBalanceRow.source, ownScope]; exact List.mem_map_of_mem known)
    simp only [HolderBalanceRow.source, HolderSource.mk.injEq] at same
    obtain ⟨-, -, ownFrom, ownTo⟩ := same
    obtain ⟨logs', lists', balance⟩ :=
      (onChain.balances row mem (reads ownChain ownScope)).balance
    rw [ownChain, ownFrom, ownTo] at lists'
    rw [balance, ownChain]
    exact balanceOf_perm (lists'.perm lists) _
  have listed : (readChainHolders db.analytics.index db.holders
      (some ((db.dashboard createdAt).dashboardRow range))).rows
      = (sortBy compareHolders (db.holders.selected range)).map
          (chainHolderRow db.analytics.index) := by
    unfold readChainHolders
    simp only [published, ne_eq, not_true_eq_false, if_false]
    rfl
  have selected {row : HolderBalanceRow} :
      row ∈ sortBy compareHolders (db.holders.selected range) ↔ row ∈ db.holders.balances ∧
        row.chainId = range.chainId ∧ row.sourceScope = range.scope ∧ row.historyComplete ∧
          row.balance ≠ 0 := by
    rw [mem_sortBy, HolderTables.selected, List.mem_filter, decide_eq_true_eq]
  refine ⟨logs, lists, ?_, fun assetId address balance => ?_, ?_⟩
  · rw [listed, List.map_map]
    have distinct : (sortBy compareHolders (db.holders.selected range)).Nodup :=
      (perm_sortBy compareHolders _).nodup_iff.mpr (onChain.unique.of_map.filter _)
    refine distinct.map_on fun row mem row' mem' same => ?_
    obtain ⟨hrow, ownChain, ownScope, -⟩ := selected.mp mem
    obtain ⟨hrow', ownChain', ownScope', -⟩ := selected.mp mem'
    refine onChain.unique.eq_of_key_eq _ hrow hrow' ?_
    rw [HolderBalanceRow.key, HolderBalanceRow.key, ownChain, ownScope, ownChain', ownScope']
    exact congrArg (fun account => (range.chainId, range.scope, account)) same
  · rw [listed]
    constructor
    · rintro ⟨_, mem, rfl, rfl, rfl⟩
      obtain ⟨row, hrow, rfl⟩ := List.mem_map.mp mem
      obtain ⟨stored, ownChain, ownScope, -, positive⟩ := selected.mp hrow
      exact ⟨(onChain.balances row stored (reads ownChain ownScope)).zero, positive,
        (balances stored ownChain ownScope).symm⟩
    · rintro ⟨zero, positive, rfl⟩
      obtain ⟨row, stored, key⟩ := everybody zero positive
      simp only [HolderBalanceRow.key, Prod.mk.injEq] at key
      obtain ⟨ownChain, ownScope, rfl, rfl⟩ := key
      have balance := balances stored ownChain ownScope
      refine ⟨_, List.mem_map_of_mem (selected.mpr ⟨stored, ownChain, ownScope,
        (onChain.balances row stored (reads ownChain ownScope)).complete, ?_⟩), rfl, rfl,
        balance⟩
      rw [balance]
      exact positive
  · rw [listed, List.pairwise_map]
    refine (pairwise_sortBy ordersBy_compareHolders _).imp fun {a b} before => ?_
    rw [Prod.Lex.toLex_le_toLex, Prod.Lex.toLex_le_toLex] at before
    rcases before with assets | ⟨assets, balances⟩
    · exact .inl (Int.ofNat_lt.mp assets)
    · refine .inr ⟨ParallelAssetId.rank_injective (Int.ofNat_inj.mp assets), ?_⟩
      show b.balance ≤ a.balance
      rcases balances with less | ⟨same, -⟩
      · exact (neg_lt_neg_iff.mp less).le
      · exact (neg_inj.mp same).ge

end Listed

/-- **The page lists the holders of the chain.**  Every lane watches the vault of its chain, and
every chunk holds exactly what the chain has for its lane.  Then after any calls, in any order
and with whatever failures, a published row is shown with exactly the accounts that hold
something at the end of its range, each once, provided that the holders of its chain have been
rebuilt, under a scope of the dashboard, over the row's own scope and range only, and that this
scope watches both of the chain's tokens. -/
theorem holders_shown_exactly (viem : Viem) (keccak256 : String → String)
    (isAddress : String → Bool) (chains : ℕ → ChainLogs) (watched : Lane → List String)
    (watches : WatchesVaults watched) (calls : List DatabaseCall)
    (exact_ : ∀ call ∈ calls, call.Exact chains watched) (createdAt : AssetActivityRow → ℤ) :
    let db := databaseRun viem keccak256 isAddress calls
    ∀ row ∈ readLifetimeDashboard (db.dashboard createdAt), OneHolderSource calls row.range →
      HoldersWatched calls watched row.range → row.publicationStatus = .published → ∃ logs,
        (chains row.range.chainId).Lists row.range.chainId tokenRoles row.range.fromBlock
          row.range.goalBlock logs ∧
        (readChainHolders db.analytics.index db.holders (some row)).Exact viem row.range.chainId
          logs := by
  intro db row mem one holders published
  obtain ⟨range, known, rfl⟩ := List.mem_map.mp mem
  have onChain : db.OnChainIn viem chains watched range.Reads :=
    onChainIn_reads watches exact_ holders
  have written : db.WrittenBy calls := writtenBy_run watches exact_
  exact onChain.holders.exact_readChainHolders written known one published

theorem oneHolderSource_mintCalls : OneHolderSource mintCalls ethereumLifetime := by
  intro call called source wrote _ _
  simp only [mintCalls, List.mem_cons, List.not_mem_nil, or_false] at called
  rcases called with rfl | rfl | rfl
  · cases wrote
  · cases wrote
  · exact (Option.some.inj wrote).symm

/-- The page after the mint. -/
theorem readChainHolders_mintCalls :
    let db := databaseRun mintViem id (Text.isHex 40) mintCalls
    (readChainHolders db.analytics.index db.holders
      (some ((db.dashboard fun _ => 0).dashboardRow ethereumLifetime))).rows.map
        (fun row => (row.holderAddress, row.balance)) = [(alice, 100)] := by
  decide +kernel

theorem holders_shown_exactly_mint :
    let db := databaseRun mintViem id (Text.isHex 40) mintCalls
    ∃ row ∈ readLifetimeDashboard (db.dashboard fun _ => 0),
      (readChainHolders db.analytics.index db.holders (some row)).rows.map
        (fun row => (row.holderAddress, row.balance)) = [(alice, 100)] ∧
      ∃ logs, (readChainHolders db.analytics.index db.holders (some row)).Exact mintViem
        row.range.chainId logs := by
  have exactly := holders_shown_exactly mintViem id (Text.isHex 40) (fun _ => .single mintLog)
    (fun _ => tokenAddresses) watchesVaults_tokenAddresses mintCalls exact_mintCalls fun _ => 0
  have row := dashboardRow_mintCalls
  have page := readChainHolders_mintCalls
  generalize databaseRun mintViem id (Text.isHex 40) mintCalls = db at exactly row page ⊢
  have listed : (db.dashboard fun _ => 0).dashboardRow ethereumLifetime
      ∈ readLifetimeDashboard (db.dashboard fun _ => 0) :=
    List.mem_map_of_mem List.mem_cons_self
  obtain ⟨logs, -, exact⟩ :=
    exactly _ listed oneHolderSource_mintCalls holdersWatched_mintCalls row.1
  exact ⟨_, listed, page, logs, exact⟩

end UsdpIndexer
