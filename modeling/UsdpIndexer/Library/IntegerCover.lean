import Mathlib.Data.List.Basic
import Mathlib.Algebra.Order.Ring.Int

/-!
# Integer ranges: covering and tiling

Inclusive integer ranges `[lo r, hi r]`, read off arbitrary records `r` by the
two functions `lo` and `hi`.

* `Covers` — an integer lies in some range of a list.
* `Tiles start ranges stop` — the ranges follow each other without gap or
  overlap, the first begins at `start`, and `stop` is the first integer behind
  the last one.  A list that tiles covers exactly `[start, stop)`, and its
  ranges are pairwise disjoint and ascending.
* `Apart ranges` — the ranges ascend and leave something out between any two.
  A set of integers is covered by at most one such list (`Apart.ends_eq`).
-/

namespace IntegerCover

universe u

variable {R : Type u} (lo hi : R → ℤ)

/-- The integer lies in one of the ranges. -/
def Covers (ranges : List R) (b : ℤ) : Prop := ∃ r ∈ ranges, lo r ≤ b ∧ b ≤ hi r

instance (ranges : List R) (b : ℤ) : Decidable (Covers lo hi ranges b) :=
  inferInstanceAs (Decidable (∃ r ∈ ranges, lo r ≤ b ∧ b ≤ hi r))

@[simp] theorem not_covers_nil (b : ℤ) : ¬ Covers lo hi [] b := by simp [Covers]

@[simp] theorem covers_cons (r : R) (ranges : List R) (b : ℤ) :
    Covers lo hi (r :: ranges) b ↔ (lo r ≤ b ∧ b ≤ hi r) ∨ Covers lo hi ranges b := by
  simp [Covers]

@[simp] theorem covers_append (ranges ranges' : List R) (b : ℤ) :
    Covers lo hi (ranges ++ ranges') b ↔ Covers lo hi ranges b ∨ Covers lo hi ranges' b := by
  simp [Covers, or_and_right, exists_or]

theorem Covers.mono {ranges ranges' : List R} {b : ℤ} (sub : ranges ⊆ ranges')
    (covered : Covers lo hi ranges b) : Covers lo hi ranges' b := by
  obtain ⟨r, mem, le⟩ := covered
  exact ⟨r, sub mem, le⟩

/-- Consecutive, nonempty ranges from `start` up to, but not including, `stop`. -/
def Tiles (start : ℤ) : List R → ℤ → Prop
  | [], stop => stop = start
  | r :: ranges, stop => lo r = start ∧ start ≤ hi r ∧ Tiles (hi r + 1) ranges stop

@[simp] theorem tiles_nil {start stop : ℤ} : Tiles lo hi start [] stop ↔ stop = start := Iff.rfl

theorem tiles_cons {start stop : ℤ} {r : R} {ranges : List R} :
    Tiles lo hi start (r :: ranges) stop
      ↔ lo r = start ∧ start ≤ hi r ∧ Tiles lo hi (hi r + 1) ranges stop := Iff.rfl

variable {lo hi}

/-- A tiling is continued by a tiling that begins where it stopped. -/
theorem Tiles.append {middle stop : ℤ} {ranges' : List R}
    (next : Tiles lo hi middle ranges' stop) :
    ∀ {start : ℤ} {ranges : List R}, Tiles lo hi start ranges middle →
      Tiles lo hi start (ranges ++ ranges') stop := by
  intro start ranges
  induction ranges generalizing start with
  | nil =>
      rintro rfl
      exact next
  | cons head ranges ih =>
      rintro ⟨first, le, rest⟩
      exact ⟨first, le, ih rest⟩

theorem Tiles.le {stop : ℤ} :
    ∀ {start : ℤ} {ranges : List R}, Tiles lo hi start ranges stop → start ≤ stop := by
  intro start ranges
  induction ranges generalizing start with
  | nil => rintro rfl; exact le_rfl
  | cons r ranges ih =>
      rintro ⟨-, le, rest⟩
      have := ih rest
      omega

/-- Every range of a tiling is nonempty and lies between its ends. -/
theorem Tiles.bounds_of_mem {stop : ℤ} {r : R} :
    ∀ {start : ℤ} {ranges : List R}, Tiles lo hi start ranges stop → r ∈ ranges →
      start ≤ lo r ∧ lo r ≤ hi r ∧ hi r < stop := by
  intro start ranges
  induction ranges generalizing start with
  | nil => intro _ mem; simp at mem
  | cons head ranges ih =>
      rintro ⟨first, le, rest⟩ mem
      rcases List.mem_cons.mp mem with rfl | mem
      · have := rest.le
        omega
      · have := ih rest mem
        omega

/-- A tiling covers exactly what lies between its ends. -/
theorem Tiles.covers_iff {stop b : ℤ} :
    ∀ {start : ℤ} {ranges : List R}, Tiles lo hi start ranges stop →
      (Covers lo hi ranges b ↔ start ≤ b ∧ b < stop) := by
  intro start ranges
  induction ranges generalizing start with
  | nil =>
      rintro rfl
      simp only [not_covers_nil, false_iff]
      omega
  | cons head ranges ih =>
      rintro ⟨first, le, rest⟩
      rw [covers_cons, ih rest]
      have := rest.le
      omega

/-- The ranges of a tiling are ascending and pairwise disjoint. -/
theorem Tiles.pairwise {stop : ℤ} :
    ∀ {start : ℤ} {ranges : List R}, Tiles lo hi start ranges stop →
      ranges.Pairwise fun r r' => hi r < lo r' := by
  intro start ranges
  induction ranges generalizing start with
  | nil => intro _; exact List.Pairwise.nil
  | cons head ranges ih =>
      rintro ⟨-, -, rest⟩
      refine List.Pairwise.cons (fun r mem => ?_) (ih rest)
      have := rest.bounds_of_mem mem
      omega

/-- The last range of a tiling ends right before its stop. -/
theorem Tiles.hi_getLast {stop : ℤ} {r : R} :
    ∀ {start : ℤ} {ranges : List R}, Tiles lo hi start ranges stop →
      ranges.getLast? = some r → hi r + 1 = stop := by
  intro start ranges
  induction ranges generalizing start with
  | nil => intro _ last; simp at last
  | cons head ranges ih =>
      rintro ⟨-, -, rest⟩ last
      cases ranges with
      | nil =>
          simp only [List.getLast?_singleton, Option.some.injEq] at last
          rw [← last]
          exact rest.symm
      | cons second ranges => exact ih rest (by simpa using last)

/-! ### Ranges that are apart -/

variable (lo hi) in
/-- Nonempty ascending ranges that do not even touch. -/
def Apart (ranges : List R) : Prop :=
  (∀ r ∈ ranges, lo r ≤ hi r) ∧ ranges.Pairwise fun r r' => hi r + 1 < lo r'

theorem Apart.tail {r : R} {ranges : List R} (apart : Apart lo hi (r :: ranges)) :
    Apart lo hi ranges :=
  ⟨fun r' mem => apart.1 r' (List.mem_cons_of_mem _ mem), apart.2.of_cons⟩

theorem Apart.head_le {r : R} {ranges : List R} (apart : Apart lo hi (r :: ranges)) :
    lo r ≤ hi r :=
  apart.1 r List.mem_cons_self

/-- Behind the first range something is left out, and what is covered comes later. -/
theorem Apart.lt_of_covers_tail {r : R} {ranges : List R} {b : ℤ}
    (apart : Apart lo hi (r :: ranges)) (covered : Covers lo hi ranges b) : hi r + 1 < b := by
  obtain ⟨r', mem, low, -⟩ := covered
  have := (List.pairwise_cons.mp apart.2).1 r' mem
  omega

/-- The first range of a list that covers no less begins no later and, if it begins there,
ends no earlier. -/
theorem Apart.head_of_covers {r r' : R} {ranges ranges' : List R}
    (apart : Apart lo hi (r :: ranges)) (apart' : Apart lo hi (r' :: ranges'))
    (more : ∀ b, Covers lo hi (r :: ranges) b → Covers lo hi (r' :: ranges') b) :
    lo r' ≤ lo r ∧ (lo r' = lo r → hi r ≤ hi r') := by
  have nonempty := apart.head_le
  have nonempty' := apart'.head_le
  have inside : ∀ b, lo r ≤ b → b ≤ hi r → (lo r' ≤ b ∧ b ≤ hi r') ∨ hi r' + 1 < b := by
    intro b low high
    obtain here | later := (covers_cons lo hi _ _ b).mp (more b ((covers_cons lo hi _ _ b).mpr
      (.inl ⟨low, high⟩)))
    · exact .inl here
    · exact .inr (apart'.lt_of_covers_tail later)
  refine ⟨?_, fun same => ?_⟩
  · have := inside (lo r) le_rfl nonempty
    omega
  · -- else what follows the shorter range would be covered
    by_contra longer
    have := inside (hi r' + 1) (by omega) (by omega)
    omega

/-- What the tail covers is what is covered behind the first range. -/
theorem Apart.covers_tail_iff {r : R} {ranges : List R} (apart : Apart lo hi (r :: ranges))
    (b : ℤ) : Covers lo hi ranges b ↔ Covers lo hi (r :: ranges) b ∧ hi r < b := by
  rw [covers_cons]
  constructor
  · intro covered
    exact ⟨.inr covered, by have := apart.lt_of_covers_tail covered; omega⟩
  · rintro ⟨here | later, behind⟩
    · omega
    · exact later

/-- **Ranges that are apart are determined by what they cover.** -/
theorem Apart.ends_eq {ranges : List R} :
    ∀ {ranges' : List R}, Apart lo hi ranges → Apart lo hi ranges' →
      (∀ b, Covers lo hi ranges b ↔ Covers lo hi ranges' b) →
      ranges.map (fun r => (lo r, hi r)) = ranges'.map fun r => (lo r, hi r) := by
  induction ranges with
  | nil =>
      intro ranges' _ apart' same
      cases ranges' with
      | nil => rfl
      | cons r' ranges' =>
          have covered := (same (lo r')).mpr ⟨r', List.mem_cons_self, le_rfl, apart'.head_le⟩
          exact absurd covered (not_covers_nil lo hi _)
  | cons r ranges ih =>
      intro ranges' apart apart' same
      cases ranges' with
      | nil =>
          have covered := (same (lo r)).mp ⟨r, List.mem_cons_self, le_rfl, apart.head_le⟩
          exact absurd covered (not_covers_nil lo hi _)
      | cons r' ranges' =>
          have first := apart.head_of_covers apart' fun b => (same b).mp
          have second := apart'.head_of_covers apart fun b => (same b).mpr
          have low : lo r = lo r' := le_antisymm second.1 first.1
          have high : hi r = hi r' := le_antisymm (first.2 low.symm) (second.2 low)
          rw [List.map_cons, List.map_cons, low, high]
          congr 1
          refine ih apart.tail apart'.tail fun b => ?_
          rw [apart.covers_tail_iff, apart'.covers_tail_iff, same, high]

end IntegerCover
