import Mathlib.Data.List.Dedup
import UsdpIndexer.Library.StableOrder

/-!
# Selecting the first row

`first compare rows` is `ORDER BY … LIMIT 1`, and `distinctOn key compare rows` is
`SELECT DISTINCT ON (key) … ORDER BY key, …`: of the rows under each key the first one.
What comes out is a row with a least sort key; where several rows have it, the table
order decides, which stands for a choice that the query leaves open.
-/

namespace SelectFirst

open StableOrder

universe u v w

variable {α : Type u} {κ : Type v} {Key : Type w}

/-- `ORDER BY … LIMIT 1`. -/
def first (compare : α → α → ℤ) (rows : List α) : Option α := (sortBy compare rows).head?

theorem mem_of_first {compare : α → α → ℤ} {rows : List α} {row : α}
    (selected : first compare rows = some row) : row ∈ rows :=
  mem_sortBy.mp (List.mem_of_mem_head? (Option.mem_def.mpr selected))

theorem first_eq_none_iff {compare : α → α → ℤ} {rows : List α} :
    first compare rows = none ↔ rows = [] := by
  rw [first, List.head?_eq_none_iff, ← List.length_eq_zero_iff,
    (perm_sortBy compare rows).length_eq, List.length_eq_zero_iff]

@[simp] theorem first_nil (compare : α → α → ℤ) : first compare [] = none :=
  first_eq_none_iff.mpr rfl

/-- The selection commutes with a change that the comparator does not see. -/
theorem first_map {compare : α → α → ℤ} {f : α → α}
    (unseen : ∀ a b, compare (f a) (f b) = compare a b) (rows : List α) :
    first compare (rows.map f) = (first compare rows).map f := by
  rw [first, sortBy_map unseen, List.head?_map, first]

/-- The first of a table is selected if no other row comes before it. -/
theorem first_cons {compare : α → α → ℤ} {row : α} {rows : List α}
    (before : ∀ other ∈ rows, compare row other ≤ 0) : first compare (row :: rows) = some row := by
  rw [first, sortBy, List.insertionSort_cons_of_forall_rel _ before]
  rfl

section Order

variable [LinearOrder κ] {compare : α → α → ℤ} {order : α → κ}

/-- No row comes before the one that is selected. -/
theorem order_le_of_first (orders : OrdersBy compare order) {rows : List α} {row other : α}
    (selected : first compare rows = some row) (mem : other ∈ rows) : order row ≤ order other := by
  obtain ⟨back, split⟩ := List.head?_eq_some_iff.mp selected
  have sorted := pairwise_sortBy orders rows
  have inside : other ∈ sortBy compare rows := mem_sortBy.mpr mem
  rw [split] at sorted inside
  rcases List.mem_cons.mp inside with rfl | behind
  · exact le_rfl
  · exact (List.pairwise_cons.mp sorted).1 other behind

/-- Where both keys descend, no row has greater ones than the one that is selected. -/
theorem toLex_le_of_first (major minor : α → ℤ) {rows : List α} {row other : α}
    (selected : first (fun a b => lexCompare major minor b a) rows = some row)
    (mem : other ∈ rows) : toLex (major other, minor other) ≤ toLex (major row, minor row) := by
  have le := order_le_of_first (ordersBy_lexCompare_desc major minor) selected mem
  rw [Prod.Lex.toLex_le_toLex] at le ⊢
  dsimp only at le ⊢
  omega

/-- A row that comes before all others is selected. -/
theorem first_eq_some_of_lt (orders : OrdersBy compare order) {rows : List α} {row : α}
    (mem : row ∈ rows) (before : ∀ other ∈ rows, other ≠ row → order row < order other) :
    first compare rows = some row := by
  cases selected : first compare rows with
  | none =>
      rw [first_eq_none_iff.mp selected] at mem
      exact absurd mem List.not_mem_nil
  | some other =>
      by_contra differ
      have ne : other ≠ row := fun equal => differ (by rw [equal])
      exact not_lt_of_ge (order_le_of_first orders selected mem)
        (before other (mem_of_first selected) ne)

end Order

variable [LinearOrder Key] (key : α → Key)

/-- `SELECT DISTINCT ON (key) … ORDER BY key, …`. -/
def distinctOn (compare : α → α → ℤ) (rows : List α) : List α :=
  ((rows.map key).dedup.insertionSort (· ≤ ·)).filterMap fun k =>
    first compare (rows.filter (key · = k))

variable {key} {compare : α → α → ℤ} {rows : List α} {row : α}

theorem key_eq_of_first {k : Key}
    (selected : first compare (rows.filter (key · = k)) = some row) : key row = k := by
  simpa using (List.mem_filter.mp (mem_of_first selected)).2

theorem mem_distinctOn :
    row ∈ distinctOn key compare rows
      ↔ first compare (rows.filter (key · = key row)) = some row := by
  rw [distinctOn, List.mem_filterMap]
  constructor
  · rintro ⟨k, -, selected⟩
    rwa [key_eq_of_first selected]
  · intro selected
    have mem := (List.mem_filter.mp (mem_of_first selected)).1
    exact ⟨key row, by
      rw [List.mem_insertionSort, List.mem_dedup]
      exact List.mem_map_of_mem mem, selected⟩

theorem mem_of_mem_distinctOn (mem : row ∈ distinctOn key compare rows) : row ∈ rows :=
  (List.mem_filter.mp (mem_of_first (mem_distinctOn.mp mem))).1

/-- One row is selected under each key. -/
theorem nodup_distinctOn : ((distinctOn key compare rows).map key).Nodup := by
  have keys : ((rows.map key).dedup.insertionSort (· ≤ ·)).Nodup :=
    (List.perm_insertionSort _ _).nodup_iff.mpr (List.nodup_dedup _)
  rw [distinctOn, List.Nodup, List.pairwise_map, List.pairwise_filterMap]
  refine keys.imp ?_
  intro k k' differ a ha b hb
  rw [key_eq_of_first ha, key_eq_of_first hb]
  exact differ

theorem eq_of_mem_distinctOn {other : α} (mem : row ∈ distinctOn key compare rows)
    (hother : other ∈ distinctOn key compare rows) (same : key row = key other) : row = other :=
  List.inj_on_of_nodup_map nodup_distinctOn mem hother same

/-- A row that comes before all others under its key is selected. -/
theorem mem_distinctOn_of_lt [LinearOrder κ] {order : α → κ} (orders : OrdersBy compare order)
    (mem : row ∈ rows)
    (before : ∀ other ∈ rows, key other = key row → other ≠ row → order row < order other) :
    row ∈ distinctOn key compare rows := by
  rw [mem_distinctOn]
  refine first_eq_some_of_lt orders (List.mem_filter.mpr ⟨mem, decide_eq_true rfl⟩) ?_
  intro other hother differs
  obtain ⟨inside, same⟩ := List.mem_filter.mp hother
  exact before other inside (of_decide_eq_true same) differs

/-- A new row leaves the selection under the other keys as it is. -/
theorem mem_distinctOn_concat_of_ne {new : α} (differs : key row ≠ key new) :
    row ∈ distinctOn key compare (rows ++ [new]) ↔ row ∈ distinctOn key compare rows := by
  have dropped : [new].filter (key · = key row) = [] := by
    rw [List.filter_cons_of_neg (by simpa using differs.symm), List.filter_nil]
  rw [mem_distinctOn, mem_distinctOn, List.filter_append, dropped, List.append_nil]

/-- The selection commutes with a change that neither the keys nor the comparator see. -/
theorem distinctOn_map {f : α → α} (keys : ∀ a, key (f a) = key a)
    (unseen : ∀ a b, compare (f a) (f b) = compare a b) (rows : List α) :
    distinctOn key compare (rows.map f) = (distinctOn key compare rows).map f := by
  have grouped (k : Key) : first compare ((rows.map f).filter (key · = k))
      = (first compare (rows.filter (key · = k))).map f := by
    rw [List.filter_map, first_map unseen]
    simp only [Function.comp_def, keys]
  have ids : (rows.map f).map key = rows.map key := by
    rw [List.map_map]
    exact List.map_congr_left fun a _ => keys a
  rw [distinctOn, distinctOn, ids, List.map_filterMap]
  simp only [grouped]

/-- Looking a key up in what is selected, from either end. -/
theorem find?_reverse_distinctOn (k : Key) :
    (distinctOn key compare rows).reverse.find? (key · = k)
      = first compare (rows.filter (key · = k)) := by
  cases selected : first compare (rows.filter (key · = k)) with
  | none =>
      rw [List.find?_eq_none]
      intro row mem same
      have chosen := mem_distinctOn.mp (List.mem_reverse.mp mem)
      rw [of_decide_eq_true same, selected] at chosen
      cases chosen
  | some row =>
      have same := key_eq_of_first selected
      have chosen : row ∈ distinctOn key compare rows :=
        mem_distinctOn.mpr (by rw [same]; exact selected)
      cases found : (distinctOn key compare rows).reverse.find? (key · = k) with
      | none =>
          have missing := List.find?_eq_none.mp found row (List.mem_reverse.mpr chosen)
          exact absurd (decide_eq_true same) missing
      | some other =>
          have under : key other = k := by simpa using List.find?_some found
          have inside := List.mem_reverse.mp (List.mem_of_find?_eq_some found)
          rw [eq_of_mem_distinctOn inside chosen (under.trans same.symm)]

/-- A row under the key is selected as soon as there is one. -/
theorem exists_mem_distinctOn (mem : row ∈ rows) :
    ∃ selected ∈ distinctOn key compare rows, key selected = key row := by
  cases selected : first compare (rows.filter (key · = key row)) with
  | none =>
      have empty := first_eq_none_iff.mp selected
      exact absurd (List.mem_filter.mpr ⟨mem, decide_eq_true rfl⟩) (by rw [empty]; simp)
  | some other =>
      have same := key_eq_of_first selected
      exact ⟨other, mem_distinctOn.mpr (by rw [same]; exact selected), same⟩

end SelectFirst
