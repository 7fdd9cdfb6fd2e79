import Mathlib.Data.List.Pairwise
import UsdpIndexer.Library.ObjectHeap
import UsdpIndexer.Indexer.Planner

/-!
# Merged coverage as a normal form

`mergeCoverage` of `indexer/planner.ts`, twice over.

`Planner` models it on values.  Ranges that are apart are determined by what
they cover, so two lists of ranges that cover the same blocks merge to the same
list: the merged list is the normal form of a set of blocks.

The source works on objects.  It sorts a copy of the array, puts a copy of a
range behind a gap, and widens the last merged range in place.
`mergeCoverageIn` is that loop on a memory of range objects and arrays; what it
returns reads as `mergeCoverage` of what it was given, and every object and
array that was there before is as it was.
-/

namespace UsdpIndexer

open IntegerCover StableOrder ObjectHeap

/-! ## The normal form -/

theorem apart_mergeCoverage {ranges : List BlockRange}
    (valid : ∀ range ∈ ranges, range.fromBlock ≤ range.toBlock) :
    Apart BlockRange.fromBlock BlockRange.toBlock (mergeCoverage ranges) :=
  ⟨fun _ mem => fromBlock_le_of_mem_mergeCoverage valid mem, pairwise_mergeCoverage valid⟩

/-- The merged list depends on the covered blocks alone. -/
theorem mergeCoverage_congr {ranges ranges' : List BlockRange}
    (valid : ∀ range ∈ ranges, range.fromBlock ≤ range.toBlock)
    (valid' : ∀ range ∈ ranges', range.fromBlock ≤ range.toBlock)
    (same : ∀ block, Covered ranges block ↔ Covered ranges' block) :
    mergeCoverage ranges = mergeCoverage ranges' := by
  refine List.map_injective_iff.mpr injective_ends ?_
  refine (apart_mergeCoverage valid).ends_eq (apart_mergeCoverage valid') fun block => ?_
  exact (covered_mergeCoverage valid block).trans
    ((same block).trans (covered_mergeCoverage valid' block).symm)

theorem mergeCoverage_mergeCoverage {ranges : List BlockRange}
    (valid : ∀ range ∈ ranges, range.fromBlock ≤ range.toBlock) :
    mergeCoverage (mergeCoverage ranges) = mergeCoverage ranges :=
  mergeCoverage_congr (fun _ mem => fromBlock_le_of_mem_mergeCoverage valid mem) valid
    (covered_mergeCoverage valid)

/-- The block behind a range is not covered when the ranges are apart. -/
theorem not_covered_succ {ranges : List BlockRange}
    (apart : Apart BlockRange.fromBlock BlockRange.toBlock ranges) {range : BlockRange}
    (mem : range ∈ ranges) : ¬ Covered ranges (range.toBlock + 1) := by
  rintro ⟨other, memOther, low, high⟩
  obtain ⟨nonempty, pairwise⟩ := apart
  have := nonempty range mem
  by_cases equal : other = range
  · rw [equal] at high
    omega
  · -- the two ranges stand one behind the other, with a block between them
    have symmetric : Std.Symm fun a b : BlockRange =>
        a.toBlock + 1 < b.fromBlock ∨ b.toBlock + 1 < a.fromBlock := ⟨fun _ _ => Or.symm⟩
    have ordered : ranges.Pairwise fun a b : BlockRange =>
        a.toBlock + 1 < b.fromBlock ∨ b.toBlock + 1 < a.fromBlock := pairwise.imp Or.inl
    have := ordered.forall memOther mem equal
    omega

/-- Between any two merged ranges lies an uncovered block. -/
theorem uncovered_between_mergeCoverage {ranges : List BlockRange}
    (valid : ∀ range ∈ ranges, range.fromBlock ≤ range.toBlock) :
    (mergeCoverage ranges).Pairwise fun a b =>
      ∃ block, a.toBlock < block ∧ block < b.fromBlock ∧ ¬ Covered ranges block := by
  refine (pairwise_mergeCoverage valid).imp_of_mem fun {a b} mem _ apart => ?_
  refine ⟨a.toBlock + 1, by omega, apart, ?_⟩
  rw [← covered_mergeCoverage valid]
  exact not_covered_succ (apart_mergeCoverage valid) mem

/-! ## The loop on objects -/

/-- Range objects, and arrays of references to them. -/
structure Memory where
  ranges : Heap BlockRange
  arrays : Heap (List Ref)

namespace Memory

/-- The values of the ranges in an array. -/
def coverage (memory : Memory) (array : Ref) : List BlockRange :=
  memory.ranges.readAll (memory.arrays.read array)

/-- The array is there, and so are the ranges it holds. -/
structure Holds (memory : Memory) (array : Ref) : Prop where
  allocated : array < memory.arrays.next
  ranges : ∀ range ∈ memory.arrays.read array, range < memory.ranges.next

/-- `merged.push({ ...range })`. -/
def pushCopy (memory : Memory) (merged range : Ref) : Memory where
  ranges := memory.ranges.alloc (memory.ranges.read range)
  arrays := memory.arrays.write merged (memory.arrays.read merged ++ [memory.ranges.next])

/-- `previous.toBlock = range.toBlock`. -/
def widen (memory : Memory) (previous range : Ref) : Memory where
  ranges := memory.ranges.write previous
    { memory.ranges.read previous with toBlock := (memory.ranges.read range).toBlock }
  arrays := memory.arrays

/-- One turn of the loop over the sorted ranges. -/
def mergeTurn (merged : Ref) (memory : Memory) (range : Ref) : Memory :=
  match (memory.arrays.read merged).getLast? with
  | none => memory.pushCopy merged range
  | some previous =>
      if (memory.ranges.read range).fromBlock > (memory.ranges.read previous).toBlock + 1 then
        memory.pushCopy merged range
      else if (memory.ranges.read range).toBlock > (memory.ranges.read previous).toBlock then
        memory.widen previous range
      else memory

/-- `[...ranges].sort(…)` and `const merged = []`: the memory in which the loop
starts.  The copy is the array `memory.arrays.next`, `merged` the one behind it. -/
def sortedCopy (memory : Memory) (ranges : Ref) : Memory where
  ranges := memory.ranges
  arrays :=
    let copy := memory.arrays.next
    let arrays := memory.arrays.alloc (memory.arrays.read ranges)
    (arrays.write copy (sortBy
      (fun a b => compareFromBlock (memory.ranges.read a) (memory.ranges.read b))
      (arrays.read copy))).alloc []

/-- `mergeCoverage` on objects: the memory it leaves and the array it returns. -/
def mergeCoverageIn (memory : Memory) (ranges : Ref) : Memory × Ref :=
  let sorted := memory.arrays.next
  let merged := memory.arrays.next + 1
  let start := memory.sortedCopy ranges
  ((start.arrays.read sorted).foldl (mergeTurn merged) start, merged)

/-! ### The loop keeps to its own objects -/

/-- Where the loop stands: `merged` holds objects made since `start`, each once,
that read as the ranges merged so far, and nothing else has changed. -/
structure Merging (start : Memory) (merged : Ref) (memory : Memory) (done : List BlockRange) :
    Prop where
  ranges : Agrees start.ranges.next start.ranges memory.ranges
  arrays : ∀ array ≠ merged, memory.arrays.read array = start.arrays.read array
  grown : start.ranges.next ≤ memory.ranges.next
  own : ∀ range ∈ memory.arrays.read merged,
    start.ranges.next ≤ range ∧ range < memory.ranges.next
  once : (memory.arrays.read merged).Nodup
  reads : memory.coverage merged = done.reverse

section Turn

variable {start memory : Memory} {merged range : Ref} {done : List BlockRange}

theorem Merging.pushCopy (merging : Merging start merged memory done) :
    Merging start merged (memory.pushCopy merged range)
      (memory.ranges.read range :: done) where
  ranges := merging.ranges.trans (agrees_alloc merging.grown _)
  arrays := by
    intro array other
    rw [← merging.arrays array other]
    exact Heap.read_write_of_ne other _
  grown := merging.grown.trans (Nat.le_succ _)
  own := by
    intro ref mem
    simp only [Memory.pushCopy, Heap.read_write_self, List.mem_append, List.mem_singleton,
      Heap.next_alloc] at mem ⊢
    rcases mem with mem | rfl
    · exact ⟨(merging.own ref mem).1, Nat.lt_succ_of_lt (merging.own ref mem).2⟩
    · exact ⟨merging.grown, Nat.lt_succ_self _⟩
  once := by
    simp only [Memory.pushCopy, Heap.read_write_self]
    refine merging.once.append (List.nodup_singleton _) ?_
    intro ref mem fresh
    rw [List.mem_singleton.mp fresh] at mem
    exact lt_irrefl _ (merging.own _ mem).2
  reads := by
    have old : (memory.ranges.alloc (memory.ranges.read range)).readAll (memory.arrays.read merged)
        = done.reverse :=
      (Heap.readAll_alloc (fun ref mem => (merging.own ref mem).2) _).trans merging.reads
    simp only [Memory.coverage, Memory.pushCopy, Heap.read_write_self, List.reverse_cons]
    rw [Heap.readAll, List.map_append, List.map_singleton, Heap.read_alloc_self]
    exact congrArg (· ++ _) old

theorem Merging.widen {previous : Ref} {older : List Ref} {widest : BlockRange}
    {rest : List BlockRange} (merging : Merging start merged memory (widest :: rest))
    (array : memory.arrays.read merged = older ++ [previous]) :
    Merging start merged (memory.widen previous range)
      ({ widest with toBlock := (memory.ranges.read range).toBlock } :: rest) where
  ranges := merging.ranges.trans (agrees_write
    (merging.own previous (by simp [array])).1 _ _)
  arrays := merging.arrays
  grown := merging.grown
  own := merging.own
  once := merging.once
  reads := by
    have once := merging.once
    have reads := merging.reads
    rw [array, List.nodup_append] at once
    have apart : previous ∉ older := fun mem => once.2.2 previous mem previous (by simp) rfl
    simp only [Memory.coverage, Heap.readAll, array, List.map_append, List.map_singleton,
      List.reverse_cons] at reads
    obtain ⟨front, last⟩ := List.append_inj' reads rfl
    rw [List.cons.injEq] at last
    simp only [Memory.coverage, Memory.widen, array, Heap.readAll, List.map_append,
      List.map_singleton, Heap.read_write_self, List.reverse_cons, last.1]
    congr 1
    exact (Heap.readAll_write apart _).trans front

/-- A turn on objects is a turn on values. -/
theorem Merging.turn (merging : Merging start merged memory done)
    (given : range < start.ranges.next) :
    Merging start merged (mergeTurn merged memory range)
      (mergeStep done (start.ranges.read range)) := by
  have same : memory.ranges.read range = start.ranges.read range := merging.ranges range given
  have reads := merging.reads
  rcases List.eq_nil_or_concat (memory.arrays.read merged) with empty | ⟨older, previous, array⟩
  · -- nothing is merged yet
    simp only [Memory.coverage, empty, Heap.readAll_nil] at reads
    obtain rfl : done = [] := List.reverse_eq_nil_iff.mp reads.symm
    simp only [mergeTurn, empty, List.getLast?_nil, mergeStep, ← same]
    exact merging.pushCopy
  · rw [List.concat_eq_append] at array
    cases done with
    | nil => simp [Memory.coverage, Heap.readAll, array] at reads
    | cons widest rest =>
        simp only [Memory.coverage, Heap.readAll, array, List.map_append, List.map_singleton,
          List.reverse_cons] at reads
        have last : memory.ranges.read previous = widest :=
          (List.cons.inj (List.append_inj' reads rfl).2).1
        simp only [mergeTurn, array, List.getLast?_concat, mergeStep, ← same, last]
        split
        · exact merging.pushCopy
        · split
          · exact merging.widen array
          · exact merging

end Turn

/-- The loop on objects is the loop on values. -/
theorem Merging.run {start : Memory} {merged : Ref} (todo : List Ref)
    (given : ∀ range ∈ todo, range < start.ranges.next) :
    ∀ {memory : Memory} {done : List BlockRange}, Merging start merged memory done →
      Merging start merged (todo.foldl (mergeTurn merged) memory)
        ((start.ranges.readAll todo).foldl mergeStep done) := by
  induction todo with
  | nil => intro memory done merging; exact merging
  | cons range todo ih =>
      intro memory done merging
      exact ih (fun r mem => given r (List.mem_cons_of_mem _ mem))
        (merging.turn (given range List.mem_cons_self))

/-- The memory in which the loop starts differs in two new arrays. -/
theorem agrees_sortedCopy (memory : Memory) (ranges : Ref) :
    Agrees memory.arrays.next memory.arrays (memory.sortedCopy ranges).arrays :=
  ((agrees_alloc le_rfl _).trans (agrees_write le_rfl _ _)).trans (agrees_alloc (Nat.le_succ _) _)

theorem read_sortedCopy (memory : Memory) (ranges : Ref) :
    (memory.sortedCopy ranges).arrays.read memory.arrays.next
      = sortBy (fun a b => compareFromBlock (memory.ranges.read a) (memory.ranges.read b))
          (memory.arrays.read ranges) := by
  simp only [sortedCopy]
  rw [Heap.read_alloc_of_ne (Nat.ne_of_lt (Nat.lt_succ_self _)), Heap.read_write_self,
    Heap.read_alloc_self]

theorem merging_sortedCopy (memory : Memory) (ranges : Ref) :
    Merging (memory.sortedCopy ranges) (memory.arrays.next + 1) (memory.sortedCopy ranges) [] := by
  have empty : (memory.sortedCopy ranges).arrays.read (memory.arrays.next + 1) = [] :=
    Heap.read_alloc_self _ _
  exact
    { ranges := Agrees.refl _ _
      arrays := fun _ _ => rfl
      grown := le_rfl
      own := by simp [empty]
      once := by simp [empty]
      reads := by simp [coverage, empty] }

/-- **What the source's loop returns reads as the merged list, and whatever was
in memory before reads as it did.** -/
theorem mergeCoverageIn_spec {memory : Memory} {ranges : Ref} (held : memory.Holds ranges) :
    (memory.mergeCoverageIn ranges).1.coverage (memory.mergeCoverageIn ranges).2
        = mergeCoverage (memory.coverage ranges) ∧
      Agrees memory.ranges.next memory.ranges (memory.mergeCoverageIn ranges).1.ranges ∧
      Agrees memory.arrays.next memory.arrays (memory.mergeCoverageIn ranges).1.arrays := by
  have merging := (merging_sortedCopy memory ranges).run
    ((memory.sortedCopy ranges).arrays.read memory.arrays.next) (by
      intro range mem
      rw [read_sortedCopy, mem_sortBy] at mem
      exact held.ranges range mem)
  have sorted : (memory.sortedCopy ranges).ranges.readAll
      ((memory.sortedCopy ranges).arrays.read memory.arrays.next)
        = sortBy compareFromBlock (memory.coverage ranges) := by
    rw [read_sortedCopy]
    exact map_sortBy memory.ranges.read compareFromBlock (memory.arrays.read ranges)
  rw [sorted] at merging
  refine ⟨merging.reads, merging.ranges, fun array given => ?_⟩
  rw [← agrees_sortedCopy memory ranges array given]
  exact merging.arrays array (Nat.ne_of_lt (Nat.lt_succ_of_lt given))

/-- The array that was merged still reads as it did. -/
theorem coverage_mergeCoverageIn {memory : Memory} {ranges array : Ref}
    (held : memory.Holds ranges) (heldArray : memory.Holds array) :
    (memory.mergeCoverageIn ranges).1.coverage array = memory.coverage array := by
  obtain ⟨-, sameRanges, sameArrays⟩ := mergeCoverageIn_spec held
  rw [coverage, sameArrays array heldArray.allocated]
  exact sameRanges.readAll heldArray.ranges

end Memory

/-- **Merging is a normal form.**  The merged list covers the blocks of the
ranges, ascends, and leaves an uncovered block between any two of its ranges;
every list that covers the same blocks merges to it, itself included; and the
source's loop, which returns it, changes neither the array it is given nor any
range in it. -/
theorem mergeCoverage_normalForm {ranges : List BlockRange}
    (valid : ∀ range ∈ ranges, range.fromBlock ≤ range.toBlock) :
    (∀ block, Covered (mergeCoverage ranges) block ↔ Covered ranges block) ∧
      ((mergeCoverage ranges).Pairwise fun a b => a.fromBlock ≤ b.fromBlock) ∧
      ((mergeCoverage ranges).Pairwise fun a b =>
        ∃ block, a.toBlock < block ∧ block < b.fromBlock ∧ ¬ Covered ranges block) ∧
      (∀ ranges' : List BlockRange, (∀ range ∈ ranges', range.fromBlock ≤ range.toBlock) →
        (∀ block, Covered ranges' block ↔ Covered ranges block) →
          mergeCoverage ranges' = mergeCoverage ranges) ∧
      mergeCoverage (mergeCoverage ranges) = mergeCoverage ranges ∧
      ∀ (memory : Memory) (array : Ref), memory.Holds array → memory.coverage array = ranges →
        let after := memory.mergeCoverageIn array
        after.1.coverage after.2 = mergeCoverage ranges ∧
          after.1.coverage array = ranges ∧
          after.1.arrays.read array = memory.arrays.read array ∧
          ∀ range < memory.ranges.next, after.1.ranges.read range = memory.ranges.read range := by
  refine ⟨covered_mergeCoverage valid, pairwise_fromBlock_mergeCoverage valid,
    uncovered_between_mergeCoverage valid, ?_, mergeCoverage_mergeCoverage valid, ?_⟩
  · intro ranges' valid' same
    exact mergeCoverage_congr valid' valid same
  · rintro memory array held rfl
    obtain ⟨reads, sameRanges, sameArrays⟩ := Memory.mergeCoverageIn_spec held
    exact ⟨reads, Memory.coverage_mergeCoverageIn held held,
      sameArrays array held.allocated, sameRanges⟩

/-- Two overlapping ranges, in memory as two objects in one array. -/
def overlapping : Memory where
  ranges := { cell := fun ref => if ref = 0 then ⟨5, 9⟩ else ⟨1, 6⟩, next := 2 }
  arrays := { cell := fun _ => [0, 1], next := 1 }

theorem mergeCoverage_normalForm_overlapping :
    mergeCoverage [⟨5, 9⟩, ⟨1, 6⟩] = [⟨1, 9⟩] ∧
      (overlapping.mergeCoverageIn 0).1.coverage (overlapping.mergeCoverageIn 0).2 = [⟨1, 9⟩] ∧
      (overlapping.mergeCoverageIn 0).1.coverage 0 = [⟨5, 9⟩, ⟨1, 6⟩] := by
  obtain ⟨-, -, -, unique, -, objects⟩ :=
    @mergeCoverage_normalForm [⟨5, 9⟩, ⟨1, 6⟩] (by decide)
  have merged : mergeCoverage [⟨5, 9⟩, ⟨1, 6⟩] = [⟨1, 9⟩] := by decide
  obtain ⟨reads, kept, -⟩ := objects overlapping 0 ⟨by decide, by decide⟩ rfl
  exact ⟨merged, reads.trans merged, kept⟩

end UsdpIndexer
