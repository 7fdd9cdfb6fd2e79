import UsdpIndexer.Library.IntegerCover
import UsdpIndexer.Library.StableOrder
import UsdpIndexer.Rpc.Errors

/-!
# Planning block ranges

`indexer/planner.ts`: how a request is cut into chunks, how an RPC failure is
classified and answered, and how coverage rows are merged into gaps.

Block numbers are `bigint` in the source and `ℤ` here; a chunk size is a number
that `planBlockRange` checks itself, so it is a `ℤ` as well.

The results at the end of the file are the meaning of the coverage functions:
`mergeCoverage` covers the same blocks in separated ascending ranges, and the
gaps of `coverageGaps` are exactly the uncovered blocks of the window.
-/

namespace UsdpIndexer

open IntegerCover StableOrder

/-- An inclusive range of blocks. -/
structure BlockRange where
  fromBlock : ℤ
  toBlock : ℤ
deriving DecidableEq, Repr

/-- The four answers to a failed RPC request. -/
inductive RpcErrorClass
  | range
  | rateLimit
  | transient
  | fatal
deriving DecidableEq, Repr

/-! ## Chunks -/

/-- The first chunk of `[fromBlock, toBlock]`. -/
def planBlockRange (fromBlock toBlock chunkSize : ℤ) : Except JsError BlockRange :=
  if chunkSize < 1 then .error ⟨"chunkSize must be a positive integer"⟩
  else if fromBlock > toBlock then .error ⟨"fromBlock must not exceed toBlock"⟩
  else
    let plannedTo := fromBlock + chunkSize - 1
    .ok ⟨fromBlock, if plannedTo > toBlock then toBlock else plannedTo⟩

/-- The planned chunk starts where it was asked to, is not empty, stays inside
the request, and is shorter than a full chunk only at the end of the request. -/
theorem planBlockRange_eq_ok {fromBlock toBlock chunkSize : ℤ} {range : BlockRange} :
    planBlockRange fromBlock toBlock chunkSize = .ok range
      ↔ 1 ≤ chunkSize ∧ fromBlock ≤ toBlock ∧ range.fromBlock = fromBlock ∧
        range.toBlock = min (fromBlock + chunkSize - 1) toBlock := by
  obtain ⟨first, last⟩ := range
  unfold planBlockRange
  split
  · simp; omega
  · split
    · simp; omega
    · simp only [Except.ok.injEq, BlockRange.mk.injEq]
      constructor
      · rintro ⟨rfl, rfl⟩
        refine ⟨by omega, by omega, rfl, ?_⟩
        split <;> omega
      · rintro ⟨-, -, rfl, rfl⟩
        refine ⟨rfl, ?_⟩
        split <;> omega

/-- Half of the size, and at least one block. -/
def reduceChunkSize (chunkSize : ℤ) : ℤ :=
  if chunkSize ≤ 1 then 1 else max 1 (chunkSize / 2)

theorem reduceChunkSize_bounds {chunkSize : ℤ} (large : 1 < chunkSize) :
    1 ≤ reduceChunkSize chunkSize ∧ reduceChunkSize chunkSize < chunkSize := by
  unfold reduceChunkSize
  split <;> omega

/-! ## Failed requests -/

/-- The class of a failure, by the first group of phrases its message hits. -/
def classifyRpcError (error : JsError) : RpcErrorClass :=
  let message := error.searchText
  if Text.includes message "block range" || Text.includes message "range limit" ||
      (Text.includes message "limited to a" && Text.includes message "range") ||
      Text.includes message "query exceeds" || Text.includes message "response size" ||
      Text.includes message "too many results" then .range
  else if Text.includes message "429" || Text.includes message "too many requests" ||
      Text.includes message "rate limit" ||
      Text.includes message "compute units per second" ||
      Text.includes message "throughput" then .rateLimit
  else if Text.includes message "timeout" || Text.includes message "timed out" ||
      Text.includes message "503" || Text.includes message "502" ||
      Text.includes message "500" || Text.includes message "temporarily" ||
      Text.includes message "network" || Text.includes message "fetch failed" then .transient
  else .fatal

/-- Strip a literal from the front, ignoring the case of letters. -/
def stripLiteral : List Char → List Char → Option (List Char)
  | [], rest => some rest
  | _ :: _, [] => none
  | c :: literal, d :: rest => if c = d.toLower then stripLiteral literal rest else none

/-- Strip `\s+`. -/
def stripSpaces : List Char → Option (List Char)
  | [] => none
  | c :: rest => if Text.isSpace c then some (rest.dropWhile Text.isSpace) else none

/-- `/limited to an?\s+(\d+)\s+(?:block\s+)?range/i` at the head of the text:
the captured digits.  No two alternatives of the pattern can start alike, so
matching greedily loses nothing. -/
def rangeLimitDigits (text : List Char) : Option (List Char) := do
  let rest ← stripLiteral "limited to a".toList text
  let rest ← stripSpaces ((stripLiteral ['n'] rest).getD rest)
  let digits := rest.takeWhile Char.isDigit
  if digits = [] then none
  else
    let rest ← stripSpaces (rest.dropWhile Char.isDigit)
    let rest := ((stripLiteral "block".toList rest).bind stripSpaces).getD rest
    let _ ← stripLiteral "range".toList rest
    return digits

/-- The block range limit the provider advertises in its message, where the
number is a positive safe integer. -/
def providerRangeLimit (error : JsError) : Option ℤ := do
  let digits ← error.message.toList.tails.findSome? rangeLimitDigits
  let limit := Text.decimalValue digits
  if limit ≤ 2 ^ 53 - 1 ∧ 0 < limit then some limit else none

example : providerRangeLimit ⟨"eth_getLogs is limited to a 5 range"⟩ = some 5 := by
  decide +kernel

theorem providerRangeLimit_pos {error : JsError} {limit : ℤ}
    (advertised : providerRangeLimit error = some limit) : 1 ≤ limit := by
  unfold providerRangeLimit at advertised
  obtain ⟨digits, -, advertised⟩ := Option.bind_eq_some_iff.mp advertised
  simp only at advertised
  split at advertised
  · rename_i bounds
    cases advertised
    omega
  · cases advertised

/-- Whether a failed request is tried again. -/
def shouldRetryRpcError (errorClass : RpcErrorClass) (attempt maxRetries : ℤ)
    (retryRateLimitsIndefinitely : Bool) : Bool :=
  if errorClass = .rateLimit ∧ retryRateLimitsIndefinitely then true
  else (errorClass = .rateLimit ∨ errorClass = .transient) ∧ attempt < maxRetries

/-! ## Coverage -/

/-- One turn of the merge loop.  `merged` is kept newest first, so its head is
the source's `merged.at(-1)`. -/
def mergeStep (merged : List BlockRange) (range : BlockRange) : List BlockRange :=
  match merged with
  | [] => [range]
  | previous :: older =>
      if range.fromBlock > previous.toBlock + 1 then range :: previous :: older
      else if range.toBlock > previous.toBlock then
        { previous with toBlock := range.toBlock } :: older
      else previous :: older

/-- The comparator of the merge: by first block. -/
def compareFromBlock (a b : BlockRange) : ℤ :=
  if a.fromBlock < b.fromBlock then -1 else if a.fromBlock > b.fromBlock then 1 else 0

/-- Coverage ranges as a minimal ascending list. -/
def mergeCoverage (ranges : List BlockRange) : List BlockRange :=
  ((sortBy compareFromBlock ranges).foldl mergeStep []).reverse

/-- The scan of `coverageGaps` over the merged ranges, from `cursor` on. -/
def scanGaps (toBlock : ℤ) : ℤ → List BlockRange → List BlockRange
  | cursor, [] => if cursor ≤ toBlock then [⟨cursor, toBlock⟩] else []
  | cursor, range :: ranges =>
      if range.toBlock < cursor ∨ range.fromBlock > toBlock then scanGaps toBlock cursor ranges
      else
        let gap : List BlockRange :=
          if range.fromBlock > cursor then [⟨cursor, range.fromBlock - 1⟩] else []
        let next := if range.toBlock + 1 > cursor then range.toBlock + 1 else cursor
        gap ++ if next > toBlock then [] else scanGaps toBlock next ranges

/-- The parts of `[fromBlock, toBlock]` that no range covers. -/
def coverageGaps (ranges : List BlockRange) (fromBlock toBlock : ℤ) :
    Except JsError (List BlockRange) :=
  if fromBlock > toBlock then .error ⟨"fromBlock must not exceed toBlock"⟩
  else .ok (scanGaps toBlock fromBlock (mergeCoverage ranges))

/-- A block lies in some coverage range. -/
abbrev Covered (ranges : List BlockRange) (block : ℤ) : Prop :=
  Covers BlockRange.fromBlock BlockRange.toBlock ranges block

@[simp] theorem not_covered_nil (block : ℤ) : ¬ Covered [] block := not_covers_nil _ _ block

@[simp] theorem covered_cons (range : BlockRange) (ranges : List BlockRange) (block : ℤ) :
    Covered (range :: ranges) block
      ↔ (range.fromBlock ≤ block ∧ block ≤ range.toBlock) ∨ Covered ranges block :=
  covers_cons _ _ range ranges block

@[simp] theorem covered_append (ranges ranges' : List BlockRange) (block : ℤ) :
    Covered (ranges ++ ranges') block ↔ Covered ranges block ∨ Covered ranges' block :=
  covers_append _ _ ranges ranges' block

/-! ### Merging keeps the covered blocks and separates the ranges -/

/-- A merged list, newest first: nonempty ranges with an uncovered block
between any two of them. -/
def Separated (merged : List BlockRange) : Prop :=
  (∀ range ∈ merged, range.fromBlock ≤ range.toBlock) ∧
    merged.Pairwise fun newer older => older.toBlock + 1 < newer.fromBlock

private theorem mergeStep_covered {merged : List BlockRange} {range : BlockRange}
    (ascending : ∀ previous ∈ merged.head?, previous.fromBlock ≤ range.fromBlock) (block : ℤ) :
    Covered (mergeStep merged range) block
      ↔ Covered merged block ∨ (range.fromBlock ≤ block ∧ block ≤ range.toBlock) := by
  cases merged with
  | nil => simp [mergeStep]
  | cons previous older =>
      have le : previous.fromBlock ≤ range.fromBlock := ascending previous rfl
      unfold mergeStep
      simp only
      split
      · simp only [covered_cons]
        tauto
      · split
        · simp only [covered_cons]
          constructor
          · rintro (inside | inside)
            -- the widened range is the old one and the new one, which touch
            · by_cases old : block ≤ previous.toBlock
              · exact Or.inl (Or.inl ⟨inside.1, old⟩)
              · exact Or.inr (by omega)
            · exact Or.inl (Or.inr inside)
          · rintro ((inside | inside) | inside)
            · exact Or.inl (by omega)
            · exact Or.inr inside
            · exact Or.inl (by omega)
        · simp only [covered_cons]
          constructor
          · rintro inside
            exact Or.inl inside
          · rintro (inside | inside)
            · exact inside
            · exact Or.inl (by omega)

private theorem mergeStep_separated {merged : List BlockRange} {range : BlockRange}
    (nonempty : range.fromBlock ≤ range.toBlock)
    (ascending : ∀ previous ∈ merged.head?, previous.fromBlock ≤ range.fromBlock)
    (separated : Separated merged) : Separated (mergeStep merged range) := by
  cases merged with
  | nil => simp [mergeStep, Separated, nonempty]
  | cons previous older =>
      obtain ⟨valid, gaps⟩ := separated
      rw [List.pairwise_cons] at gaps
      have le : previous.fromBlock ≤ range.fromBlock := ascending previous rfl
      have validPrevious := valid previous List.mem_cons_self
      unfold mergeStep
      simp only
      split
      · -- a new range behind a gap
        rename_i apart
        refine ⟨?_, ?_⟩
        · intro r mem
          rcases List.mem_cons.mp mem with rfl | mem
          · exact nonempty
          · exact valid r mem
        · refine List.Pairwise.cons ?_ (List.pairwise_cons.mpr gaps)
          intro r mem
          rcases List.mem_cons.mp mem with rfl | mem
          · omega
          · have := gaps.1 r mem
            omega
      · split
        · refine ⟨?_, List.pairwise_cons.mpr ⟨gaps.1, gaps.2⟩⟩
          intro r mem
          rcases List.mem_cons.mp mem with rfl | mem
          · simp only; omega
          · exact valid r (List.mem_cons_of_mem _ mem)
        · exact ⟨valid, List.pairwise_cons.mpr gaps⟩

private theorem head_mergeStep {merged : List BlockRange} {range previous : BlockRange}
    (ascending : ∀ previous ∈ merged.head?, previous.fromBlock ≤ range.fromBlock)
    (head : previous ∈ (mergeStep merged range).head?) :
    previous.fromBlock ≤ range.fromBlock := by
  cases merged with
  | nil =>
      simp only [mergeStep, List.head?_cons, Option.mem_some_iff] at head
      rw [← head]
  | cons newest older =>
      have le : newest.fromBlock ≤ range.fromBlock := ascending newest rfl
      unfold mergeStep at head
      simp only at head
      split at head
      · simp only [List.head?_cons, Option.mem_some_iff] at head
        rw [← head]
      · split at head <;>
          (simp only [List.head?_cons, Option.mem_some_iff] at head; rw [← head]; exact le)

/-- The merge loop over ranges in ascending order. -/
private theorem foldl_mergeStep (ranges : List BlockRange) :
    ∀ merged : List BlockRange,
      (∀ range ∈ ranges, range.fromBlock ≤ range.toBlock) →
      (ranges.Pairwise fun a b => a.fromBlock ≤ b.fromBlock) →
      (∀ previous ∈ merged.head?, ∀ range ∈ ranges, previous.fromBlock ≤ range.fromBlock) →
      Separated merged →
        Separated (ranges.foldl mergeStep merged) ∧
          ∀ block, Covered (ranges.foldl mergeStep merged) block
            ↔ Covered merged block ∨ Covered ranges block := by
  -- what is merged already starts no later than what is still to come
  induction ranges with
  | nil => intro merged _ _ _ separated; exact ⟨separated, by simp⟩
  | cons range ranges ih =>
      intro merged valid sorted ascending separated
      rw [List.pairwise_cons] at sorted
      have first : ∀ previous ∈ merged.head?, previous.fromBlock ≤ range.fromBlock :=
        fun previous head => ascending previous head range List.mem_cons_self
      obtain ⟨separated', covered⟩ := ih (mergeStep merged range)
        (fun r mem => valid r (List.mem_cons_of_mem _ mem)) sorted.2
        (fun previous head r mem => le_trans (head_mergeStep first head) (sorted.1 r mem))
        (mergeStep_separated (valid range List.mem_cons_self) first separated)
      refine ⟨separated', fun block => ?_⟩
      rw [List.foldl_cons, covered, mergeStep_covered first, covered_cons]
      tauto

private theorem ordersBy_compareFromBlock :
    OrdersBy compareFromBlock BlockRange.fromBlock := by
  intro a b
  unfold compareFromBlock
  split
  · simp; omega
  · split <;> simp <;> omega

private theorem mergeCoverage_spec {ranges : List BlockRange}
    (valid : ∀ range ∈ ranges, range.fromBlock ≤ range.toBlock) :
    Separated (mergeCoverage ranges).reverse ∧
      ∀ block, Covered (mergeCoverage ranges) block ↔ Covered ranges block := by
  obtain ⟨separated, covered⟩ := foldl_mergeStep (sortBy compareFromBlock ranges) []
    (fun r mem => valid r (mem_sortBy.mp mem))
    (pairwise_sortBy ordersBy_compareFromBlock ranges) (by simp) (by simp [Separated])
  refine ⟨by simpa [mergeCoverage] using separated, fun block => ?_⟩
  have same := covered block
  simp only [Covers, mem_sortBy, List.not_mem_nil, false_and, exists_false, false_or] at same
  simpa [mergeCoverage, Covers] using same

/-- `mergeCoverage` covers the blocks it was given and no others. -/
theorem covered_mergeCoverage {ranges : List BlockRange}
    (valid : ∀ range ∈ ranges, range.fromBlock ≤ range.toBlock) (block : ℤ) :
    Covered (mergeCoverage ranges) block ↔ Covered ranges block :=
  (mergeCoverage_spec valid).2 block

/-- Its ranges are ascending, with an uncovered block between any two. -/
theorem pairwise_mergeCoverage {ranges : List BlockRange}
    (valid : ∀ range ∈ ranges, range.fromBlock ≤ range.toBlock) :
    (mergeCoverage ranges).Pairwise fun a b => a.toBlock + 1 < b.fromBlock :=
  List.pairwise_reverse.mp (mergeCoverage_spec valid).1.2

theorem fromBlock_le_of_mem_mergeCoverage {ranges : List BlockRange}
    (valid : ∀ range ∈ ranges, range.fromBlock ≤ range.toBlock) {range : BlockRange}
    (mem : range ∈ mergeCoverage ranges) : range.fromBlock ≤ range.toBlock :=
  (mergeCoverage_spec valid).1.1 range (List.mem_reverse.mpr mem)

/-! ### The gaps are the uncovered blocks -/

/-- What a range covers that is there under a condition. -/
theorem covered_ite_single {p : Prop} [Decidable p] {first last block : ℤ} :
    Covered (if p then [⟨first, last⟩] else []) block ↔ p ∧ first ≤ block ∧ block ≤ last := by
  split <;> simp [*]

/-- What ranges cover that are not there under a condition. -/
theorem covered_ite_nil {p : Prop} [Decidable p] {ranges : List BlockRange} {block : ℤ} :
    Covered (if p then [] else ranges) block ↔ ¬ p ∧ Covered ranges block := by
  split <;> simp [*]

/-- Over ranges in ascending order, the scan from `cursor` reports exactly the
uncovered blocks of `[cursor, toBlock]`. -/
theorem covered_scanGaps {toBlock : ℤ} (ranges : List BlockRange) :
    ∀ cursor : ℤ, (∀ range ∈ ranges, range.fromBlock ≤ range.toBlock) →
      (ranges.Pairwise fun a b => a.fromBlock ≤ b.fromBlock) →
      ∀ block, Covered (scanGaps toBlock cursor ranges) block
        ↔ cursor ≤ block ∧ block ≤ toBlock ∧ ¬ Covered ranges block := by
  induction ranges with
  | nil =>
      intro cursor _ _ block
      rw [scanGaps]
      split
      · simp
      · simp
        omega
  | cons range ranges ih =>
      intro cursor valid sorted block
      rw [List.pairwise_cons] at sorted
      have nonempty := valid range List.mem_cons_self
      replace ih := fun cursor =>
        ih cursor (fun r mem => valid r (List.mem_cons_of_mem _ mem)) sorted.2
      rw [scanGaps]
      split
      · -- the range lies on one side of what is left of the window
        rename_i aside
        rw [ih cursor, covered_cons]
        constructor
        · rintro ⟨low, high, free⟩
          refine ⟨low, high, ?_⟩
          rintro (inside | inside)
          · omega
          · exact free inside
        · rintro ⟨low, high, free⟩
          exact ⟨low, high, fun inside => free (Or.inr inside)⟩
      · -- nothing in front of the range is covered by the ranges behind it
        rename_i overlaps
        have behind : Covered ranges block → range.fromBlock ≤ block := by
          rintro ⟨r, mem, le, -⟩
          exact (sorted.1 r mem).trans le
        have next : (if range.toBlock + 1 > cursor then range.toBlock + 1 else cursor)
            = max (range.toBlock + 1) cursor := by
          split <;> omega
        rw [covered_append, covered_cons, covered_ite_single, next, covered_ite_nil, ih]
        constructor
        · rintro (⟨gap, low, high⟩ | ⟨-, low, high, free⟩)
          · refine ⟨low, by omega, ?_⟩
            rintro (inside | covered)
            · omega
            · have := behind covered
              omega
          · refine ⟨by omega, high, ?_⟩
            rintro (inside | covered)
            · omega
            · exact free covered
        · rintro ⟨low, high, free⟩
          rw [not_or] at free
          by_cases front : block < range.fromBlock
          · exact .inl ⟨by omega, low, by omega⟩
          · exact .inr ⟨by omega, by omega, high, free.2⟩

/-- Every gap is a nonempty range. -/
theorem scanGaps_nonempty {toBlock : ℤ} (ranges : List BlockRange) :
    ∀ cursor : ℤ, ∀ gap ∈ scanGaps toBlock cursor ranges, gap.fromBlock ≤ gap.toBlock := by
  induction ranges with
  | nil =>
      intro cursor gap mem
      rw [scanGaps] at mem
      split at mem
      · rw [List.mem_singleton] at mem
        rw [mem]
        assumption
      · simp at mem
  | cons range ranges ih =>
      intro cursor gap mem
      rw [scanGaps] at mem
      split at mem
      · exact ih cursor gap mem
      · rw [List.mem_append] at mem
        rcases mem with mem | mem
        · split at mem
          · rw [List.mem_singleton] at mem
            rw [mem]
            simp only
            omega
          · simp at mem
        · split_ifs at mem
          · simp at mem
          · exact ih _ gap mem
          · simp at mem
          · exact ih _ gap mem

/-- **The gaps of a window are its uncovered blocks.** -/
theorem covered_coverageGaps {ranges gaps : List BlockRange} {fromBlock toBlock : ℤ}
    (valid : ∀ range ∈ ranges, range.fromBlock ≤ range.toBlock)
    (result : coverageGaps ranges fromBlock toBlock = .ok gaps) (block : ℤ) :
    Covered gaps block ↔ fromBlock ≤ block ∧ block ≤ toBlock ∧ ¬ Covered ranges block := by
  unfold coverageGaps at result
  split at result
  · cases result
  · cases result
    rw [covered_scanGaps _ _ fun _ => fromBlock_le_of_mem_mergeCoverage valid,
      covered_mergeCoverage valid]
    refine (pairwise_mergeCoverage valid).imp_of_mem fun {a b} mem _ apart => ?_
    have := fromBlock_le_of_mem_mergeCoverage valid mem
    omega

/-- Between any two gaps the scan reports lies a covered block. -/
theorem pairwise_scanGaps {toBlock : ℤ} (ranges : List BlockRange) :
    ∀ cursor : ℤ, (∀ range ∈ ranges, range.fromBlock ≤ range.toBlock) →
      (ranges.Pairwise fun a b => a.fromBlock ≤ b.fromBlock) →
      (scanGaps toBlock cursor ranges).Pairwise fun gap later =>
        ∃ block, gap.toBlock < block ∧ block < later.fromBlock ∧ Covered ranges block := by
  induction ranges with
  | nil =>
      intro cursor _ _
      rw [scanGaps]
      split
      · exact List.pairwise_singleton _ _
      · exact List.Pairwise.nil
  | cons range ranges ih =>
      intro cursor valid sorted
      rw [List.pairwise_cons] at sorted
      have nonempty := valid range List.mem_cons_self
      have valid' : ∀ r ∈ ranges, r.fromBlock ≤ r.toBlock :=
        fun r mem => valid r (List.mem_cons_of_mem _ mem)
      have rest : ∀ cursor, (scanGaps toBlock cursor ranges).Pairwise fun gap later =>
          ∃ block, gap.toBlock < block ∧ block < later.fromBlock ∧
            Covered (range :: ranges) block := by
        intro cursor
        refine (ih cursor valid' sorted.2).imp ?_
        rintro gap later ⟨block, low, high, covered⟩
        exact ⟨block, low, high, (covered_cons range ranges block).mpr (.inr covered)⟩
      rw [scanGaps]
      split
      · exact rest cursor
      · refine List.pairwise_append.mpr ⟨?_, ?_, ?_⟩
        · split
          · exact List.pairwise_singleton _ _
          · exact List.Pairwise.nil
        · split_ifs <;> first | exact List.Pairwise.nil | exact rest _
        · -- the range itself lies between the gap in front of it and those behind it
          intro gap front later back
          split at front
          · rename_i before
            rw [List.mem_singleton] at front
            have next : (if range.toBlock + 1 > cursor then range.toBlock + 1 else cursor)
                = range.toBlock + 1 := if_pos (by omega)
            rw [next] at back
            split at back
            · simp at back
            · have behind := (covered_scanGaps ranges (range.toBlock + 1) valid' sorted.2
                later.fromBlock).mp ⟨later, back, le_rfl, scanGaps_nonempty ranges _ later back⟩
              exact ⟨range.fromBlock, by rw [front]; simp only; omega, by omega,
                (covered_cons range ranges _).mpr (.inl ⟨le_rfl, nonempty⟩)⟩
          · simp at front

/-- What `coverageGaps` scans is in ascending order. -/
theorem pairwise_fromBlock_mergeCoverage {ranges : List BlockRange}
    (valid : ∀ range ∈ ranges, range.fromBlock ≤ range.toBlock) :
    (mergeCoverage ranges).Pairwise fun a b => a.fromBlock ≤ b.fromBlock := by
  refine (pairwise_mergeCoverage valid).imp_of_mem fun {a b} mem _ apart => ?_
  have := fromBlock_le_of_mem_mergeCoverage valid mem
  omega

/-- The gaps ascend inside the window, with a covered block between any two. -/
theorem bounds_coverageGaps {ranges gaps : List BlockRange} {fromBlock toBlock : ℤ}
    (valid : ∀ range ∈ ranges, range.fromBlock ≤ range.toBlock)
    (result : coverageGaps ranges fromBlock toBlock = .ok gaps) :
    (∀ gap ∈ gaps, fromBlock ≤ gap.fromBlock ∧ gap.fromBlock ≤ gap.toBlock ∧
      gap.toBlock ≤ toBlock) ∧
    gaps.Pairwise fun gap later =>
      ∃ block, gap.toBlock < block ∧ block < later.fromBlock ∧ Covered ranges block := by
  have covered := covered_coverageGaps valid result
  unfold coverageGaps at result
  split at result
  · cases result
  · cases result
    constructor
    · intro gap mem
      have nonempty := scanGaps_nonempty _ _ gap mem
      have first := (covered gap.fromBlock).mp ⟨gap, mem, le_rfl, nonempty⟩
      have last := (covered gap.toBlock).mp ⟨gap, mem, nonempty, le_rfl⟩
      exact ⟨first.1, nonempty, last.2.1⟩
    · refine (pairwise_scanGaps _ fromBlock (fun _ => fromBlock_le_of_mem_mergeCoverage valid)
        (pairwise_fromBlock_mergeCoverage valid)).imp ?_
      rintro gap later ⟨block, low, high, inside⟩
      exact ⟨block, low, high, (covered_mergeCoverage valid block).mp inside⟩

theorem apart_coverageGaps {ranges gaps : List BlockRange} {fromBlock toBlock : ℤ}
    (valid : ∀ range ∈ ranges, range.fromBlock ≤ range.toBlock)
    (result : coverageGaps ranges fromBlock toBlock = .ok gaps) :
    Apart BlockRange.fromBlock BlockRange.toBlock gaps := by
  obtain ⟨inside, separated⟩ := bounds_coverageGaps valid result
  refine ⟨fun gap mem => (inside gap mem).2.1, separated.imp ?_⟩
  rintro gap later ⟨block, low, high, -⟩
  omega

/-- A range is its two ends. -/
theorem injective_ends :
    Function.Injective fun range : BlockRange => (range.fromBlock, range.toBlock) := by
  rintro ⟨first, last⟩ ⟨first', last'⟩ equal
  cases equal
  rfl

/-- **The gaps depend on the covered blocks of the window alone.** -/
theorem coverageGaps_congr {ranges ranges' : List BlockRange} {fromBlock toBlock : ℤ}
    (valid : ∀ range ∈ ranges, range.fromBlock ≤ range.toBlock)
    (valid' : ∀ range ∈ ranges', range.fromBlock ≤ range.toBlock)
    (same : ∀ block, fromBlock ≤ block → block ≤ toBlock →
      (Covered ranges block ↔ Covered ranges' block)) :
    coverageGaps ranges fromBlock toBlock = coverageGaps ranges' fromBlock toBlock := by
  by_cases misordered : fromBlock > toBlock
  · rw [coverageGaps, if_pos misordered, coverageGaps, if_pos misordered]
  · have result : coverageGaps ranges fromBlock toBlock
        = .ok (scanGaps toBlock fromBlock (mergeCoverage ranges)) := by
      rw [coverageGaps, if_neg misordered]
    have result' : coverageGaps ranges' fromBlock toBlock
        = .ok (scanGaps toBlock fromBlock (mergeCoverage ranges')) := by
      rw [coverageGaps, if_neg misordered]
    have ends := (apart_coverageGaps valid result).ends_eq (apart_coverageGaps valid' result')
      fun block => by
        refine (covered_coverageGaps valid result block).trans
          (Iff.trans ?_ (covered_coverageGaps valid' result' block).symm)
        constructor
        · rintro ⟨low, high, free⟩
          exact ⟨low, high, (same block low high).not.mp free⟩
        · rintro ⟨low, high, free⟩
          exact ⟨low, high, (same block low high).not.mpr free⟩
    rw [result, result', List.map_injective_iff.mpr injective_ends ends]

/-- A window has no gap exactly when every block of it is covered. -/
theorem coverageGaps_eq_nil_iff {ranges : List BlockRange} {fromBlock toBlock : ℤ}
    (valid : ∀ range ∈ ranges, range.fromBlock ≤ range.toBlock) (ordered : fromBlock ≤ toBlock) :
    coverageGaps ranges fromBlock toBlock = .ok []
      ↔ ∀ block, fromBlock ≤ block → block ≤ toBlock → Covered ranges block := by
  constructor
  · intro result block low high
    by_contra free
    exact not_covered_nil _ ((covered_coverageGaps valid result block).mpr ⟨low, high, free⟩)
  · intro covered
    have result : coverageGaps ranges fromBlock toBlock
        = .ok (scanGaps toBlock fromBlock (mergeCoverage ranges)) := by
      rw [coverageGaps, if_neg (by omega)]
    rw [result]
    congr 1
    rw [List.eq_nil_iff_forall_not_mem]
    intro gap mem
    have nonempty := scanGaps_nonempty (mergeCoverage ranges) fromBlock gap mem
    obtain ⟨low, high, free⟩ := (covered_coverageGaps valid result gap.fromBlock).mp
      ⟨gap, mem, le_rfl, nonempty⟩
    exact free (covered _ low high)

end UsdpIndexer
