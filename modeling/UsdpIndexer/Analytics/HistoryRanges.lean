import Mathlib.Data.Int.ConditionallyCompleteOrder
import Mathlib.Order.ConditionallyCompleteLattice.Basic
import UsdpIndexer.Indexer.PersistChunk
import UsdpIndexer.Library.BinarySearch
import UsdpIndexer.Library.FailingFold
import UsdpIndexer.Protocol.Registry

/-!
# Aligned history ranges

`resolveAlignedSavingsHistoryRanges` of `analytics/savings-history.ts` chooses one window for
several chains, and finds on each of them the first blocks at or after its two ends, with
`findBlockAtOrAfterTimestamp` of `indexer/service.ts`.

A binary search says nothing if the block it starts from does not reach its target.  Here it
does, because no chain's finalized block is older than the end of the window.
-/

namespace UsdpIndexer

open FailingFold

/-! ## Reading a chain -/

/-- What a block is read for.  A search counts its reads. -/
inductive HistoryRead
  | finalizedBlock
  | windowStart (turn : ℕ)
  | windowEnd (turn : ℕ)
  | fromBlock
  | toBlock
deriving DecidableEq, Repr

/-- The client of a chain.  A block that has been read once need not be readable again. -/
structure HistoryClient where
  getBlockNumber : Except JsError ℤ
  getFinalizedBlock : Except JsError RpcBlock
  getBlock : HistoryRead → ℤ → Except JsError RpcBlock

/-- What is read is so: a block that is returned is on the chain, is the one asked for and has
its timestamp. -/
structure HistoryClient.Truthful (timestamp : ℤ → ℤ) (client : HistoryClient) : Prop where
  finalized : ∀ block number, client.getFinalizedBlock = .ok block →
    block.number = some number → 0 ≤ number ∧ block.timestamp = timestamp number
  block : ∀ read number block, client.getBlock read number = .ok block →
    0 ≤ number ∧ block.number = some number ∧ block.timestamp = timestamp number

/-- The loop of `findBlockAtOrAfterTimestamp`.  Neither bound is ever negative, so the division
of `bigint` is that of the search. -/
def findBlockAtOrAfterTimestamp (getBlock : ℕ → ℤ → Except JsError RpcBlock)
    (targetTimestamp high : ℤ) : Except JsError ℤ :=
  BinarySearch.leastFrom
    (fun turn middle => do
      let block ← getBlock turn middle
      return !decide (block.timestamp < targetTimestamp))
    0 0 high

/-- **What the search finds**: the first block at or after a time, where the block it starts
from is. -/
theorem findBlockAtOrAfterTimestamp_spec {timestamp : ℤ → ℤ}
    (monotone : MonotoneOn timestamp (Set.Ici 0)) {getBlock : ℕ → ℤ → Except JsError RpcBlock}
    (truthful : ∀ turn number block, getBlock turn number = .ok block →
      block.timestamp = timestamp number)
    {targetTimestamp high found : ℤ} (nonneg : 0 ≤ high)
    (reached : targetTimestamp ≤ timestamp high)
    (result : findBlockAtOrAfterTimestamp getBlock targetTimestamp high = .ok found) :
    found ≤ high ∧ IsLeast {number | 0 ≤ number ∧ targetTimestamp ≤ timestamp number} found := by
  obtain ⟨low, le, holds, below⟩ := BinarySearch.leastFrom_spec
    (P := fun number => targetTimestamp ≤ timestamp number) (by
      intro turn number b answer
      obtain ⟨block, read, same⟩ := bind_eq_ok.mp answer
      cases same
      rw [← truthful turn number block read, Bool.not_eq_true', decide_eq_false_iff_not, not_lt])
    (fun m n positive m_le holds =>
      holds.trans (monotone positive (positive.trans m_le) m_le)) nonneg reached result
  refine ⟨le, ⟨low, holds⟩, fun number inside => ?_⟩
  by_contra earlier
  exact below number inside.1 (not_le.mp earlier) inside.2

/-- **The search ends** after as many reads as its start has binary digits: what later reads
would return does not matter. -/
theorem findBlockAtOrAfterTimestamp_reads {getBlock getBlock' : ℕ → ℤ → Except JsError RpcBlock}
    {high : ℤ} (same : ∀ turn, turn < high.toNat.size → getBlock turn = getBlock' turn)
    (targetTimestamp : ℤ) :
    findBlockAtOrAfterTimestamp getBlock targetTimestamp high
      = findBlockAtOrAfterTimestamp getBlock' targetTimestamp high := by
  refine BinarySearch.leastFrom_congr fun turn before => ?_
  rw [zero_add, sub_zero] at before
  rw [same turn before]

/-! ## The ranges -/

/-- A chain with its latest final block. -/
structure FinalizedChain where
  adapter : SavingsChainAdapter
  rpcUrl : String
  client : HistoryClient
  finalizedBlockNumber : ℤ
  finalizedTimestamp : ℤ

/-- The blocks of a chain that belong to the window. -/
structure AlignedSavingsHistoryRange where
  adapter : SavingsChainAdapter
  rpcUrl : String
  fromBlock : ℤ
  toBlock : ℤ
  fromTimestamp : ℤ
  toTimestamp : ℤ
  targetWindowStart : ℤ
  targetWindowEnd : ℤ
deriving DecidableEq, Repr

/-- What is read of the environment: the URLs, by the slug of the chain, and `FINALITY_LAG`. -/
structure HistoryEnv where
  rpcUrl : String → Option String
  finalityLag : ℤ

/-- The client that is made for a chain and a URL. -/
abbrev ClientOf := SavingsChainAdapter → String → HistoryClient

/-- The block a chain's finality points to. -/
def finalizedBlock (client : HistoryClient) (finalityLag : ℤ) : Finality → Except JsError RpcBlock
  | .rpcFinalized => client.getFinalizedBlock
  | .confirmationLag => do
      let head ← client.getBlockNumber
      client.getBlock .finalizedBlock (head - finalityLag)

/-- The latest final block of a chain; one without a number is an error. -/
def finalizedChain (clientOf : ClientOf) (finalityLag : ℤ)
    (configured : SavingsChainAdapter × String) : Except JsError FinalizedChain := do
  let client := clientOf configured.1 configured.2
  let block ← finalizedBlock client finalityLag configured.1.finality
  match block.number with
  | none => .error ⟨s!"{configured.1.chainName} finalized block is incomplete"⟩
  | some number => return ⟨configured.1, configured.2, client, number, block.timestamp⟩

/-- The requested chains that have a URL. -/
def configuredChains (env : HistoryEnv) (chainSlugs : List String) :
    List (SavingsChainAdapter × String) :=
  savingsChainAdapters.filterMap fun adapter =>
    match env.rpcUrl adapter.chainSlug with
    | some rpcUrl => if adapter.chainSlug ∈ chainSlugs ∧ rpcUrl ≠ "" then some (adapter, rpcUrl)
        else none
    | none => none

/-- The oldest finalized timestamp, from that of the first chain on. -/
def latestCommonWindowEnd (first : FinalizedChain) (chains : List FinalizedChain) : ℤ :=
  chains.foldl
    (fun oldest chain =>
      if chain.finalizedTimestamp < oldest then chain.finalizedTimestamp else oldest)
    first.finalizedTimestamp

/-- The end of the window: the pinned one, unless it is too late. -/
def targetWindowEnd (pinnedWindowEnd : Option ℤ) (latest : ℤ) : Except JsError ℤ :=
  match pinnedWindowEnd with
  | none => .ok latest
  | some pinned =>
      if pinned > latest then
        .error ⟨s!"Pinned history window end {pinned} exceeds " ++
          s!"latest common finalized timestamp {latest}"⟩
      else .ok pinned

/-- The range of a chain. -/
def alignedRange (targetWindowStart targetWindowEnd : ℤ) (chain : FinalizedChain) :
    Except JsError AlignedSavingsHistoryRange := do
  let fromBlock ← findBlockAtOrAfterTimestamp
    (fun turn => chain.client.getBlock (.windowStart turn))
    targetWindowStart chain.finalizedBlockNumber
  let toBlock ← findBlockAtOrAfterTimestamp
    (fun turn => chain.client.getBlock (.windowEnd turn))
    targetWindowEnd chain.finalizedBlockNumber
  let first ← chain.client.getBlock .fromBlock fromBlock
  let last ← chain.client.getBlock .toBlock toBlock
  return {
    adapter := chain.adapter
    rpcUrl := chain.rpcUrl
    fromBlock := fromBlock
    toBlock := toBlock
    fromTimestamp := first.timestamp
    toTimestamp := last.timestamp
    targetWindowStart := targetWindowStart
    targetWindowEnd := targetWindowEnd }

/-- The chains are read side by side; of several rejections the first in the list stands for
the one that comes first. -/
def resolveAlignedSavingsHistoryRanges (env : HistoryEnv) (clientOf : ClientOf)
    (chainSlugs : List String) (days : ℤ) (pinnedWindowEnd : Option ℤ) :
    Except JsError (List AlignedSavingsHistoryRange) :=
  if days < 1 ∨ days > 365 then
    .error ⟨"History days must be an integer between 1 and 365"⟩
  else
    let configured := configuredChains env chainSlugs
    let missing := chainSlugs.filter fun slug =>
      !configured.any fun chain => chain.1.chainSlug = slug
    if missing.length > 0 then
      .error ⟨"Missing RPC configuration for: " ++ String.intercalate ", " missing⟩
    else do
      let chains ← configured.mapM (finalizedChain clientOf env.finalityLag)
      match chains with
      | [] => .error ⟨"Cannot read properties of undefined (reading 'finalizedTimestamp')"⟩
      | first :: rest =>
          let windowEnd ← targetWindowEnd pinnedWindowEnd
            (latestCommonWindowEnd first (first :: rest))
          let windowStart := windowEnd - days * 24 * 60 * 60
          (first :: rest).mapM (alignedRange windowStart windowEnd)

/-! ## What is returned -/

/-- The oldest of some timestamps is not younger than any of them. -/
theorem latestCommonWindowEnd_le {first : FinalizedChain} {chains : List FinalizedChain} :
    ∀ chain ∈ chains, latestCommonWindowEnd first chains ≤ chain.finalizedTimestamp := by
  have smaller (start : ℤ) : chains.foldl
      (fun oldest chain =>
        if chain.finalizedTimestamp < oldest then chain.finalizedTimestamp else oldest) start
      ≤ start ∧ ∀ chain ∈ chains, chains.foldl
      (fun oldest chain =>
        if chain.finalizedTimestamp < oldest then chain.finalizedTimestamp else oldest) start
      ≤ chain.finalizedTimestamp := by
    induction chains generalizing start with
    | nil => exact ⟨le_rfl, fun chain mem => nomatch mem⟩
    | cons chain chains ih =>
        rw [List.foldl_cons]
        obtain ⟨le, others⟩ := ih
          (if chain.finalizedTimestamp < start then chain.finalizedTimestamp else start)
        have both : (if chain.finalizedTimestamp < start then chain.finalizedTimestamp else start)
            ≤ start ∧
            (if chain.finalizedTimestamp < start then chain.finalizedTimestamp else start)
              ≤ chain.finalizedTimestamp := by
          split <;> omega
        refine ⟨le.trans both.1, fun other mem => ?_⟩
        rcases List.mem_cons.mp mem with rfl | mem
        · exact le.trans both.2
        · exact others other mem
  exact (smaller first.finalizedTimestamp).2

theorem targetWindowEnd_le {pinnedWindowEnd : Option ℤ} {latest windowEnd : ℤ}
    (chosen : targetWindowEnd pinnedWindowEnd latest = .ok windowEnd) : windowEnd ≤ latest := by
  unfold targetWindowEnd at chosen
  split at chosen
  · cases chosen
    exact le_rfl
  · split at chosen
    · cases chosen
    · cases chosen
      omega

/-- A finalized block is on its chain. -/
structure FinalizedChain.OnChain (clientOf : ClientOf) (timestamp : ℤ → ℤ)
    (chain : FinalizedChain) : Prop where
  client : chain.client = clientOf chain.adapter chain.rpcUrl
  nonneg : 0 ≤ chain.finalizedBlockNumber
  time : chain.finalizedTimestamp = timestamp chain.finalizedBlockNumber

theorem finalizedChain_onChain {clientOf : ClientOf} {finalityLag : ℤ}
    {configured : SavingsChainAdapter × String} {timestamp : ℤ → ℤ}
    (truthful : (clientOf configured.1 configured.2).Truthful timestamp) {chain : FinalizedChain}
    (read : finalizedChain clientOf finalityLag configured = .ok chain) :
    chain.adapter = configured.1 ∧ chain.OnChain clientOf timestamp := by
  unfold finalizedChain at read
  obtain ⟨block, reads, rest⟩ := bind_eq_ok.mp read
  split at rest
  · cases rest
  · rename_i number numbered
    cases rest
    have place : 0 ≤ number ∧ block.timestamp = timestamp number := by
      unfold finalizedBlock at reads
      split at reads
      · exact truthful.finalized block number reads numbered
      · obtain ⟨head, -, reads⟩ := bind_eq_ok.mp reads
        obtain ⟨nonneg, same, time⟩ := truthful.block _ _ _ reads
        rw [numbered, Option.some.injEq] at same
        rw [same]
        exact ⟨nonneg, time⟩
    exact ⟨rfl, rfl, place.1, place.2⟩

/-- A range that fits its chain and the window of all: its ends are the first blocks at or
after those of the window, in order and not beyond the finalized block. -/
structure AlignedSavingsHistoryRange.Aligned (timestamp : ℤ → ℤ) (windowStart windowEnd : ℤ)
    (chain : FinalizedChain) (range : AlignedSavingsHistoryRange) : Prop where
  adapter : range.adapter = chain.adapter
  targetWindowStart : range.targetWindowStart = windowStart
  targetWindowEnd : range.targetWindowEnd = windowEnd
  ordered : range.fromBlock ≤ range.toBlock
  finalized : range.toBlock ≤ chain.finalizedBlockNumber
  fromBlock : IsLeast {number | 0 ≤ number ∧ windowStart ≤ timestamp number} range.fromBlock
  toBlock : IsLeast {number | 0 ≤ number ∧ windowEnd ≤ timestamp number} range.toBlock
  fromTimestamp : range.fromTimestamp = timestamp range.fromBlock
  toTimestamp : range.toTimestamp = timestamp range.toBlock

theorem alignedRange_aligned {clientOf : ClientOf} {timestamp : ℤ → ℤ} {chain : FinalizedChain}
    (monotone : MonotoneOn timestamp (Set.Ici 0)) (onChain : chain.OnChain clientOf timestamp)
    (truthful : (clientOf chain.adapter chain.rpcUrl).Truthful timestamp)
    {windowStart windowEnd : ℤ} (ordered : windowStart ≤ windowEnd)
    (finalized : windowEnd ≤ chain.finalizedTimestamp) {range : AlignedSavingsHistoryRange}
    (resolved : alignedRange windowStart windowEnd chain = .ok range) :
    range.Aligned timestamp windowStart windowEnd chain := by
  rw [← onChain.client] at truthful
  rw [onChain.time] at finalized
  obtain ⟨fromBlock, foundFrom, resolved⟩ := bind_eq_ok.mp resolved
  obtain ⟨toBlock, foundTo, resolved⟩ := bind_eq_ok.mp resolved
  obtain ⟨first, readFrom, resolved⟩ := bind_eq_ok.mp resolved
  obtain ⟨last, readTo, resolved⟩ := bind_eq_ok.mp resolved
  cases resolved
  obtain ⟨-, leastFrom⟩ := findBlockAtOrAfterTimestamp_spec monotone
    (fun turn number block read => (truthful.block _ number block read).2.2) onChain.nonneg
    (ordered.trans finalized) foundFrom
  obtain ⟨le, leastTo⟩ := findBlockAtOrAfterTimestamp_spec monotone
    (fun turn number block read => (truthful.block _ number block read).2.2) onChain.nonneg
    finalized foundTo
  exact {
    adapter := rfl
    targetWindowStart := rfl
    targetWindowEnd := rfl
    -- a block at or after the end is at or after the start
    ordered := leastFrom.2 ⟨leastTo.1.1, ordered.trans leastTo.1.2⟩
    finalized := le
    fromBlock := leastFrom
    toBlock := leastTo
    fromTimestamp := (truthful.block _ _ _ readFrom).2.2
    toTimestamp := (truthful.block _ _ _ readTo).2.2 }

/-- **Aligned windows.**  On chains whose blocks do not go back in time, and from reads that are
truthful, the call throws or returns a range for every chain, all of one window that ends no
later than any chain is finalized and that every range fits; and a search ends after as many
reads as its start has binary digits. -/
theorem resolveAlignedSavingsHistoryRanges_aligned {clientOf : ClientOf}
    {timestamp : SavingsChainAdapter → ℤ → ℤ}
    (monotone : ∀ adapter, MonotoneOn (timestamp adapter) (Set.Ici 0))
    (truthful : ∀ adapter rpcUrl, (clientOf adapter rpcUrl).Truthful (timestamp adapter))
    (env : HistoryEnv) (chainSlugs : List String) (days : ℤ) (pinnedWindowEnd : Option ℤ) :
    ((∃ e, resolveAlignedSavingsHistoryRanges env clientOf chainSlugs days pinnedWindowEnd
        = .error e) ∨
      ∃ ranges chains windowEnd,
        resolveAlignedSavingsHistoryRanges env clientOf chainSlugs days pinnedWindowEnd
          = .ok ranges ∧
        (configuredChains env chainSlugs).mapM (finalizedChain clientOf env.finalityLag)
          = .ok chains ∧
        (∀ chain ∈ chains, windowEnd ≤ chain.finalizedTimestamp) ∧
        List.Forall₂ (fun chain range => AlignedSavingsHistoryRange.Aligned
          (timestamp chain.adapter) (windowEnd - days * 24 * 60 * 60) windowEnd chain range)
          chains ranges) ∧
    ∀ (getBlock getBlock' : ℕ → ℤ → Except JsError RpcBlock) (targetTimestamp high : ℤ),
      (∀ turn, turn < high.toNat.size → getBlock turn = getBlock' turn) →
      findBlockAtOrAfterTimestamp getBlock targetTimestamp high
        = findBlockAtOrAfterTimestamp getBlock' targetTimestamp high := by
  refine ⟨?_, fun _ _ targetTimestamp _ same =>
    findBlockAtOrAfterTimestamp_reads same targetTimestamp⟩
  cases outcome : resolveAlignedSavingsHistoryRanges env clientOf chainSlugs days
      pinnedWindowEnd with
  | error e => exact .inl ⟨e, rfl⟩
  | ok ranges =>
      refine .inr ?_
      unfold resolveAlignedSavingsHistoryRanges at outcome
      split at outcome
      · cases outcome
      rename_i allowed
      simp only at outcome
      split at outcome
      · cases outcome
      obtain ⟨chains, reads, outcome⟩ := bind_eq_ok.mp outcome
      split at outcome
      · cases outcome
      rename_i first rest
      obtain ⟨windowEnd, chosen, resolved⟩ := bind_eq_ok.mp outcome
      have finalized : ∀ chain ∈ first :: rest, windowEnd ≤ chain.finalizedTimestamp :=
        fun chain mem => (targetWindowEnd_le chosen).trans (latestCommonWindowEnd_le chain mem)
      refine ⟨ranges, first :: rest, windowEnd, rfl, reads, finalized, ?_⟩
      have onChain : ∀ chain ∈ first :: rest,
          chain.OnChain clientOf (timestamp chain.adapter) := by
        intro chain mem
        obtain ⟨configured, -, read⟩ := (mem_of_mapM_eq_ok reads chain).mp mem
        obtain ⟨adapter, onChain⟩ := finalizedChain_onChain (truthful _ _) read
        rw [adapter]
        exact onChain
      have each := (List.forall₂_and_left _ _).mpr ⟨fun chain mem =>
        (⟨onChain chain mem, finalized chain mem⟩ :
          chain.OnChain clientOf (timestamp chain.adapter) ∧
            windowEnd ≤ chain.finalizedTimestamp), mapM_eq_ok.mp resolved⟩
      refine each.imp fun chain range ⟨⟨onChain, finalized⟩, resolved⟩ => ?_
      exact alignedRange_aligned (monotone _) onChain (truthful _ _) (by omega) finalized resolved

/-- A chain with two blocks at a time, half a day apart. -/
def pairedTimestamp (number : ℤ) : ℤ := 43200 * (number / 2)

/-- The block at a number. -/
def pairedBlock (number : ℤ) : RpcBlock := ⟨some number, none, "", pairedTimestamp number⟩

/-- Its client; finalized is the block 21, or what is said to be the head. -/
def pairedClient : HistoryClient where
  getBlockNumber := .ok 21
  getFinalizedBlock := .ok (pairedBlock 21)
  getBlock := fun _ number =>
    if 0 ≤ number then .ok (pairedBlock number) else .error ⟨"Block not found"⟩

/-- Of two blocks at one time the first is found. -/
theorem resolveAlignedSavingsHistoryRanges_paired :
    ∃ ranges, resolveAlignedSavingsHistoryRanges ⟨fun _ => some "http", 3⟩ (fun _ _ => pairedClient)
        ["base", "hyperevm"] 1 none = .ok ranges ∧
      (ranges.map fun range => (range.adapter.chainSlug, range.fromBlock, range.toBlock))
        = [("base", 14, 18), ("hyperevm", 14, 18)] ∧
      ∃ chains windowEnd, List.Forall₂ (fun chain range => AlignedSavingsHistoryRange.Aligned
        pairedTimestamp (windowEnd - 1 * 24 * 60 * 60) windowEnd chain range) chains ranges := by
  have monotone : MonotoneOn pairedTimestamp (Set.Ici 0) := by
    intro a _ b _ le
    rw [pairedTimestamp, pairedTimestamp]
    omega
  have truthful : pairedClient.Truthful pairedTimestamp := by
    refine ⟨fun block number read same => ?_, fun _ number block read => ?_⟩
    · cases read
      cases same
      exact ⟨by decide, rfl⟩
    · simp only [pairedClient] at read
      split at read
      · cases read
        exact ⟨‹_›, rfl, rfl⟩
      · cases read
  have known : ((resolveAlignedSavingsHistoryRanges ⟨fun _ => some "http", 3⟩
      (fun _ _ => pairedClient) ["base", "hyperevm"] 1 none).toOption.map fun ranges =>
        ranges.map fun range => (range.adapter.chainSlug, range.fromBlock, range.toBlock))
      = some [("base", 14, 18), ("hyperevm", 14, 18)] := by decide +kernel
  obtain ⟨rejected | ⟨ranges, chains, windowEnd, resolved, -, -, aligned⟩, -⟩ :=
    @resolveAlignedSavingsHistoryRanges_aligned (fun _ _ => pairedClient) (fun _ => pairedTimestamp)
      (fun _ => monotone) (fun _ _ => truthful) ⟨fun _ => some "http", 3⟩ ["base", "hyperevm"]
      1 none
  · obtain ⟨e, rejected⟩ := rejected
    rw [rejected] at known
    cases known
  · rw [resolved] at known
    exact ⟨ranges, resolved, Option.some.inj known, chains, windowEnd, aligned⟩

end UsdpIndexer
